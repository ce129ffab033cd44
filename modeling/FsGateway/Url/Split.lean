/-!
# Parts of a text

* `splitAt`: the parts of a text between certain characters.
-/

namespace FsGateway.Url

/-- Splits at the characters for which `p` holds. -/
def splitAt (p : Char → Bool) : List Char → List (List Char)
  | [] => [[]]
  | c :: cs =>
    if p c then [] :: splitAt p cs
    else
      match splitAt p cs with
      | part :: parts => (c :: part) :: parts
      | [] => [[c]]

end FsGateway.Url
