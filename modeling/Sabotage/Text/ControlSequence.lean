/-!
# Control sequences

Terminals take an escape character and a bracket, with parameters and a final letter, for an order
and show nothing. `dropSequences` takes such sequences out of a text.
-/

namespace Sabotage.Text.ControlSequence

/-- The character a sequence begins with. -/
def escape : Char := '\x1b'

/-- A character of the parameters. -/
def isParameter (c : Char) : Bool :=
  ('0' ≤ c && c ≤ '9') || c == ';' || c == '?'

/-- The length of what completes a sequence right after the escape character; zero when nothing
does. -/
def length : List Char → Nat
  | '[' :: cs =>
    let parameters := cs.takeWhile isParameter
    if (cs.drop parameters.length).head?.any Char.isAlpha then parameters.length + 2 else 0
  | _ => 0

/-- A text without sequences; the next `skip` characters belong to one. -/
def dropFrom : Nat → List Char → List Char
  | _, [] => []
  | skip + 1, _ :: cs => dropFrom skip cs
  | 0, c :: cs =>
    if c = escape ∧ length cs ≠ 0 then dropFrom (length cs) cs else c :: dropFrom 0 cs

/-- A text without sequences. -/
def drop (s : String) : String :=
  String.ofList (dropFrom 0 s.toList)

/-- A text without escape characters stays as it is. -/
theorem dropFrom_zero_eq_self {cs : List Char} (h : escape ∉ cs) : dropFrom 0 cs = cs := by
  induction cs with
  | nil => rfl
  | cons c cs ih =>
    have hc : c ≠ escape := fun e => h (e ▸ List.mem_cons_self ..)
    rw [dropFrom, if_neg (fun hn => hc hn.1), ih fun hm => h (List.mem_cons_of_mem _ hm)]

end Sabotage.Text.ControlSequence
