/-
Capital letters, as far as they are written in ASCII.

A text that is compared with an ASCII word without regard to case is first
put into capitals. Beside the letters a to z, two letters have an ASCII
capital, the dotless i and the long s, and a few characters have capitals of
several ASCII letters. Every other character keeps its own shape here: its
capital, if it has one, is in no ASCII word.
-/
namespace ClusterUtility.Text

/-- The capital form of a character where that form is in ASCII, else the
character. -/
def capital (c : Char) : List Char :=
  if 'a' ≤ c ∧ c ≤ 'z' then [Char.ofNat (c.toNat - 32)]
  else
    match c with
    | 'ı' => ['I']
    | 'ſ' => ['S']
    | 'ß' => ['S', 'S']
    | 'ﬀ' => ['F', 'F']
    | 'ﬁ' => ['F', 'I']
    | 'ﬂ' => ['F', 'L']
    | 'ﬃ' => ['F', 'F', 'I']
    | 'ﬄ' => ['F', 'F', 'L']
    | 'ﬅ' => ['S', 'T']
    | 'ﬆ' => ['S', 'T']
    | _ => [c]

/-- A text in capitals. -/
def capitals (text : String) : String :=
  String.ofList (text.toList.flatMap capital)

end ClusterUtility.Text
