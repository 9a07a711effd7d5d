/-! Texts taken apart at a character, and parts put together. -/
namespace Accounts.Parts

/-- The parts between the occurrences of `sep`; there is always one more than of these. -/
def splitAt (sep : Char) : List Char → List (List Char)
  | [] => [[]]
  | c :: rest =>
    match splitAt sep rest with
    | [] => [[]]
    | part :: parts => if c = sep then [] :: part :: parts else (c :: part) :: parts

def join (sep : Char) : List (List Char) → List Char
  | [] => []
  | [part] => part
  | part :: next :: parts => part ++ sep :: join sep (next :: parts)

end Accounts.Parts
