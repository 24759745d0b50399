import Sabotage.Table
import Sabotage.Text.Blank
import Sabotage.Text.Emoji.Names
import Sabotage.Text.Lowercase
import Sabotage.Text.Spelling
import Sabotage.Text.Split

/-!
# Pictures by name

A name between colons stands for a picture, `:bug:` for a beetle. `-emoji` and `-text` at the end
of the name ask for one of the two forms a picture may have. What is between colons and no name
stays as it is, and its second colon begins no other name.
-/

namespace Sabotage.Text.Emoji

/-! ## The pictures there are -/

/-- Words in twos. -/
def twos : List String → List (String × String)
  | a :: b :: rest => (a, b) :: twos rest
  | _ => []

/-- The entries of a listing. -/
def entries (listing : String) : List (String × String) :=
  twos (((split '\n' listing).flatMap (split ' ')).filter (· != ""))

/-- The flags by name. -/
def flags : List (String × String) := entries flagListing

/-- The pictures with tones of skin, by name. -/
def toned : List (String × String) := entries tonedListing

/-- All other pictures by name. -/
def plain : List (String × String) := entries plainListing

/-- The flag of a country: its two letters in the alphabet of flags. -/
def flagOf (country : String) : String :=
  String.ofList (country.toList.map fun c => Char.ofNat (0x1f1e6 + c.toNat - 'A'.toNat))

/-- The tones of skin: how a name with one ends, and the sign for it. -/
def tones : List (String × Char) :=
  [("_light_skin_tone", Char.ofNat 0x1f3fb), ("_medium-light_skin_tone", Char.ofNat 0x1f3fc),
    ("_medium_skin_tone", Char.ofNat 0x1f3fd), ("_medium-dark_skin_tone", Char.ofNat 0x1f3fe),
    ("_dark_skin_tone", Char.ofNat 0x1f3ff)]

/-- A picture in a tone: the sign comes after the first character, in the place of a selector. -/
def withTone (tone : Char) (picture : String) : String :=
  String.ofList (match picture.toList with
    | c :: '\ufe0f' :: rest => c :: tone :: rest
    | c :: rest => c :: tone :: rest
    | [] => [])

/-- What stands before a given end, when a text has it. -/
def before? (ending : String) (cs : List Char) : Option (List Char) :=
  let n := cs.length - ending.length
  if cs.drop n = ending.toList then some (cs.take n) else none

/-- The picture in a tone of skin that a name stands for. -/
def tonedPicture? (name : List Char) : Option String :=
  tones.findSome? fun (ending, tone) =>
    (before? ending name).bind fun base =>
      (Table.lookup (String.ofList base) toned).map (withTone tone)

/-- The flag that a name stands for; two words may come before it. -/
def flag? (name : String) : Option String :=
  let country := if name.startsWith "flag_for_" then String.ofList (name.toList.drop 9) else name
  (Table.lookup country flags).map flagOf

/-- The picture that a name in small letters stands for. -/
def picture? (name : String) : Option String :=
  Table.lookup name plain <|> Table.lookup name toned <|> flag? name
    <|> tonedPicture? name.toList

/-! ## Putting them in -/

/-- The forms a picture may be asked for in, and the sign for each. -/
def forms : List (String × Char) := [("-emoji", '\ufe0f'), ("-text", '\ufe0e')]

/-- What is between two colons, as a name and the sign for a form. -/
def nameAndForm (inside : List Char) : List Char × List Char :=
  (forms.findSome? fun (ending, sign) =>
    (before? ending inside).map fun name => (name, [sign])).getD (inside, [])

/-- The picture between two colons, in the form asked for. -/
def between? (inside : List Sign) : Option (List Char) :=
  (Spelling.chars? inside).bind fun cs =>
    let (name, form) := nameAndForm cs
    (picture? (String.ofList (lowercase name))).map fun picture => picture.toList ++ form

/-- What stands for a name between two colons: a picture, or what was written. -/
def shown (inside : List Sign) : List Sign :=
  match between? inside with
  | some picture => Spelling.ofChars picture
  | none => .char ':' :: inside ++ [.char ':']

/-- What is between a colon and the next one, when no blank comes between. -/
def inside? (signs : List Sign) : Option (List Sign) :=
  let inside := signs.takeWhile fun s => s != .char ':' && !s.satisfies isBlank
  if (signs.drop inside.length).head? = some (.char ':') then some inside else none

/-- A text with pictures for names; the next `skip` signs belong to a name. -/
def replaceFrom : Nat → List Sign → List Sign
  | _, [] => []
  | skip + 1, _ :: rest => replaceFrom skip rest
  | 0, s :: rest =>
    match if s = .char ':' then inside? rest else none with
    | some inside => shown inside ++ replaceFrom (inside.length + 1) rest
    | none => s :: replaceFrom 0 rest

/-- A text with pictures for names. -/
def replace (signs : List Sign) : List Sign :=
  replaceFrom 0 signs

/-- A text without colons stays as it is. -/
theorem replace_eq_self {signs : List Sign} (h : .char ':' ∉ signs) : replace signs = signs := by
  induction signs with
  | nil => rfl
  | cons s signs ih =>
    have hc : s ≠ .char ':' := fun e => h (e ▸ List.mem_cons_self ..)
    simp only [replace, replaceFrom, hc, if_false] at ih ⊢
    rw [ih fun hm => h (List.mem_cons_of_mem _ hm)]

end Sabotage.Text.Emoji
