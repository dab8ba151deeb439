import Kanaka.Text.Regex

/-! # Regular expressions of JavaScript -/

namespace Kanaka.Backend.JsRegex
open Text

/-- The ranges of a character class. A hyphen that ends a range, or the class, stands for itself. -/
def ranges : List Char → Char → Bool
  | first :: '-' :: last :: rest, c => (first ≤ c && c ≤ last) || ranges rest c
  | first :: rest, c => first == c || ranges rest c
  | [], _ => false

def oneOf (text : String) : Char → Bool := ranges text.toList

/-- `\d` -/
def digit : Char → Bool := oneOf "0-9"

/-- `\s` -/
def space (c : Char) : Bool :=
  c.toNat ∈ [9, 10, 11, 12, 13, 32, 160, 5760, 8232, 8233, 8239, 8287, 12288, 65279] ||
    (8192 ≤ c.toNat && c.toNat ≤ 8202)

def wordChar : Option Char → Bool
  | some c => oneOf "A-Za-z0-9_" c
  | none => false

/-- `\b` -/
def wordBoundary : Regex Char := .look fun before after => wordChar before != wordChar after

/-- `^` -/
def start : Regex Char := .look fun before _ => before.isNone

/-- `$` -/
def finish : Regex Char := .look fun _ after => after.isNone

def nothing : Regex Char := .look fun _ _ => true

def sequence (parts : List (Regex Char)) : Regex Char := parts.foldr .seq nothing

def optional (part : Regex Char) : Regex Char := .many part 0 (some 1) false

def star (part : Regex Char) : Regex Char := .many part 0 none false

def atLeast (least : Nat) (part : Regex Char) : Regex Char := .many part least none false

def exactly (count : Nat) (part : Regex Char) : Regex Char := .many part count (some count) false

/-- Between the anchors `^` and `$`. -/
def whole (parts : List (Regex Char)) : Regex Char := .seq start (sequence (parts ++ [finish]))

/-! Letters, with or without the flag `i`. -/

variable (ignoreCase : Bool)

def folded (has : Char → Bool) (c : Char) : Bool :=
  has c || (ignoreCase && (has c.toLower || has c.toUpper))

def any (has : Char → Bool) : Regex Char := .one (folded ignoreCase has)

def except (has : Char → Bool) : Regex Char := .one fun c => !folded ignoreCase has c

def word (text : String) : Regex Char :=
  sequence (text.toList.map fun c => any ignoreCase (· == c))

/-- `text.replace(regex, replacement)`, with the flag `g`. -/
def replace (regex : Regex Char) (text replacement : String) : String :=
  String.ofList (regex.replaceAll replacement.toList text.toList)

def test (regex : Regex Char) (text : String) : Bool := regex.test none text.toList

/-! ## What an anchored expression reads -/

theorem over_sequence {parts : List (Regex Char)} {here next : At Char}
    (member : next ∈ (sequence (parts ++ [finish])).ends here) :
    Over (fun c => ∃ part ∈ parts, part.reads c = true) here next ∧ next.rest = [] := by
  induction parts generalizing here with
  | nil =>
      obtain ⟨middle, atEnd, last⟩ := List.mem_flatMap.mp member
      cases List.mem_singleton.mp last
      unfold finish Regex.ends at atEnd
      split at atEnd
      · rename_i ended
        cases List.mem_singleton.mp atEnd
        exact ⟨.refl, by simpa using ended⟩
      · cases atEnd
  | cons part parts ih =>
      obtain ⟨middle, found, later⟩ := List.mem_flatMap.mp member
      obtain ⟨along, ended⟩ := ih later
      refine ⟨((Regex.over_ends found).mono ?_).trans (along.mono ?_), ended⟩
      · intro c reads
        exact ⟨part, List.mem_cons_self, reads⟩
      · rintro c ⟨other, member, reads⟩
        exact ⟨other, List.mem_cons_of_mem part member, reads⟩

theorem reads_of_test {parts : List (Regex Char)} {text : String}
    (found : test (whole parts) text = true) :
    ∀ c ∈ text.toList, ∃ part ∈ parts, part.reads c = true := by
  obtain ⟨next, member⟩ := Regex.exists_of_test (fun c rest => rfl) found
  obtain ⟨middle, begun, member⟩ := List.mem_flatMap.mp member
  cases List.mem_singleton.mp begun
  obtain ⟨⟨word, same, reads⟩, ended⟩ := over_sequence member
  rw [ended, List.append_nil] at same
  rw [show text.toList = word from same]
  exact reads

end Kanaka.Backend.JsRegex
