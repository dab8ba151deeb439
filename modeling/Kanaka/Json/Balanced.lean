import Mathlib.Data.List.Basic

/-!
# Texts with brackets and quotes

A balanced text can be told from its own end, so that what stands before it needs no escaping.
-/

namespace Kanaka.Json

def special : List Char := ['"', '\\', '{', '}', '[', ']']

/-- The inside of a string. -/
inductive Escaped : List Char → Prop where
  | nil : Escaped []
  | plain {c} : c ≠ '"' → c ≠ '\\' → Escaped [c]
  | pair (c) : Escaped ['\\', c]
  | append {first second} : Escaped first → Escaped second → Escaped (first ++ second)

inductive Balanced : List Char → Prop where
  | nil : Balanced []
  | plain {c} : c ∉ special → Balanced [c]
  | quoted {text} : Escaped text → Balanced ('"' :: (text ++ ['"']))
  | braces {text} : Balanced text → Balanced ('{' :: (text ++ ['}']))
  | brackets {text} : Balanced text → Balanced ('[' :: (text ++ [']']))
  | append {first second} : Balanced first → Balanced second → Balanced (first ++ second)

theorem Balanced.of_plain {text : List Char} (plain : ∀ c ∈ text, c ∉ special) : Balanced text := by
  induction text with
  | nil => exact .nil
  | cons c text ih =>
      rw [List.forall_mem_cons] at plain
      exact .append (.plain plain.1) (ih plain.2)

theorem Balanced.intercalate {separator : List Char} {texts : List (List Char)}
    (separating : Balanced separator) (balanced : ∀ text ∈ texts, Balanced text) :
    Balanced (separator.intercalate texts) := by
  induction texts with
  | nil => exact .nil
  | cons text texts ih =>
      rw [List.forall_mem_cons] at balanced
      cases texts with
      | nil =>
          rw [List.intercalate_singleton]
          exact balanced.1
      | cons text' texts =>
          rw [List.intercalate_cons_cons]
          exact .append (.append balanced.1 separating) (ih balanced.2)

/-! ## Reading a text -/

/-- Outside or inside of a string, in so many brackets. Nothing is read after a closing bracket too
many, or a backslash outside of a string. -/
inductive Scan where
  | outside (depth : Nat)
  | inside (depth : Nat)
  | escaped (depth : Nat)
  | dead

namespace Scan

def step : Scan → Char → Scan
  | .outside depth, '"' => .inside depth
  | .outside depth, '{' => .outside (depth + 1)
  | .outside depth, '[' => .outside (depth + 1)
  | .outside 0, '}' => .dead
  | .outside 0, ']' => .dead
  | .outside (depth + 1), '}' => .outside depth
  | .outside (depth + 1), ']' => .outside depth
  | .outside _, '\\' => .dead
  | .outside depth, _ => .outside depth
  | .inside depth, '"' => .outside depth
  | .inside depth, '\\' => .escaped depth
  | .inside depth, _ => .inside depth
  | .escaped depth, _ => .inside depth
  | .dead, _ => .dead

def read (state : Scan) (text : List Char) : Scan := text.foldl step state

variable {state : Scan} {depth : Nat} {c : Char} {text : List Char}

@[simp] theorem read_nil : state.read [] = state := rfl

@[simp] theorem read_cons : state.read (c :: text) = (state.step c).read text := rfl

@[simp] theorem read_append (first second : List Char) :
    state.read (first ++ second) = (state.read first).read second :=
  List.foldl_append

@[simp] theorem read_dead : Scan.dead.read text = .dead := by
  induction text with
  | nil => rfl
  | cons c text ih => exact ih

@[simp] theorem step_outside (plain : c ∉ special) : (Scan.outside depth).step c = .outside depth := by
  simp only [special, List.mem_cons, List.not_mem_nil, or_false, not_or] at plain
  unfold step
  split <;> simp_all

@[simp] theorem step_inside (unquoted : c ≠ '"') (unescaped : c ≠ '\\') :
    (Scan.inside depth).step c = .inside depth := by
  unfold step
  split <;> simp_all

/-! ### Strings for texts, and texts for strings -/

def Out : Scan → Prop
  | .outside _ | .dead => True
  | _ => False

def In : Scan → Prop
  | .inside _ | .dead => True
  | _ => False

theorem Out.step (out : state.Out) (unquoted : c ≠ '"') : (state.step c).Out := by
  cases state with
  | outside depth =>
      unfold Scan.step
      split <;> trivial
  | dead => trivial
  | _ => contradiction

theorem In.step (inside : state.In) (unquoted : c ≠ '"') (unescaped : c ≠ '\\') :
    (state.step c).In := by
  cases state with
  | inside depth => rw [step_inside unquoted unescaped]; trivial
  | dead => trivial
  | _ => contradiction

theorem Out.quote (out : state.Out) : (state.step '"').In := by
  cases state with
  | outside | dead => trivial
  | _ => contradiction

theorem In.quote (inside : state.In) : (state.step '"').Out := by
  cases state with
  | inside | dead => trivial
  | _ => contradiction

theorem Out.backslash (out : state.Out) : state.step '\\' = .dead := by
  cases state with
  | outside depth => cases depth <;> rfl
  | dead => rfl
  | _ => contradiction

theorem Out.escaped (out : state.Out) (escaped : Escaped text) : (state.read text).Out := by
  induction escaped generalizing state with
  | nil => exact out
  | plain unquoted unescaped => exact out.step unquoted
  | pair c => rw [read_cons, out.backslash, read_dead]; trivial
  | append _ _ first second => rw [read_append]; exact second (first out)

theorem In.balanced (inside : state.In) (balanced : Balanced text) : (state.read text).In := by
  induction balanced generalizing state with
  | nil => exact inside
  | plain plain =>
      simp only [special, List.mem_cons, List.not_mem_nil, or_false, not_or] at plain
      exact inside.step plain.1 plain.2.1
  | quoted escaped =>
      rw [read_cons, read_append]
      exact (inside.quote.escaped escaped).quote
  | braces _ ih | brackets _ ih =>
      rw [read_cons, read_append]
      exact (ih (inside.step (by decide) (by decide))).step (by decide) (by decide)
  | append _ _ first second => rw [read_append]; exact second (first inside)

/-! ### What a balanced text leaves -/

theorem read_escaped (escaped : Escaped text) : (inside depth).read text = .inside depth := by
  induction escaped with
  | nil => rfl
  | plain unquoted unescaped => exact step_inside unquoted unescaped
  | pair c => rfl
  | append _ _ first second => rw [read_append, first, second]

theorem read_balanced (balanced : Balanced text) : (outside depth).read text = .outside depth := by
  induction balanced generalizing depth with
  | nil => rfl
  | plain plain => exact step_outside plain
  | quoted escaped =>
      rw [read_cons, read_append]
      show ((inside depth).read _).step '"' = _
      rw [read_escaped escaped]
      rfl
  | braces _ ih | brackets _ ih =>
      rw [read_cons, read_append]
      show ((outside (depth + 1)).read _).step _ = _
      rw [ih]
      rfl
  | append _ _ first second => rw [read_append, first, second]

/-! ### More brackets around a text -/

def lift : Scan → Scan
  | .outside depth => .outside (depth + 1)
  | .inside depth => .inside (depth + 1)
  | .escaped depth => .escaped (depth + 1)
  | .dead => .dead

theorem step_lift (alive : state.step c ≠ .dead) : state.lift.step c = (state.step c).lift := by
  cases state with
  | outside depth =>
      by_cases plain : c ∉ special
      · rw [step_outside plain]
        exact step_outside plain
      · simp only [special, List.mem_cons, List.not_mem_nil, or_false, not_not] at plain
        rcases plain with rfl | rfl | rfl | rfl | rfl | rfl <;> cases depth <;>
          first | rfl | exact absurd rfl alive
  | inside depth =>
      by_cases quote : c = '"'
      · rw [quote]
        rfl
      · by_cases backslash : c = '\\'
        · rw [backslash]
          rfl
        · rw [step_inside quote backslash]
          exact step_inside quote backslash
  | escaped | dead => rfl

theorem read_lift (alive : state.read text ≠ .dead) :
    state.lift.read text = (state.read text).lift := by
  induction text generalizing state with
  | nil => rfl
  | cons c text ih =>
      have here : state.step c ≠ .dead := by
        intro dead
        rw [read_cons, dead, read_dead] at alive
        exact alive rfl
      rw [read_cons, read_cons, step_lift here]
      exact ih alive

theorem lift_ne_outside : state.lift ≠ .outside 0 := by
  cases state <;> simp [lift]

end Scan

/-! ## Texts in brackets -/

def Bracketed (text : List Char) : Prop :=
  ∃ opening body closing, Balanced body ∧
    (opening = '{' ∧ closing = '}' ∨ opening = '[' ∧ closing = ']') ∧
      text = opening :: (body ++ [closing])

section Bracketed
variable {text text' first rest : List Char} {c : Char}

theorem Bracketed.balanced (bracketed : Bracketed text) : Balanced text := by
  obtain ⟨opening, body, closing, balanced, ⟨rfl, rfl⟩ | ⟨rfl, rfl⟩, rfl⟩ := bracketed
  · exact .braces balanced
  · exact .brackets balanced

theorem Bracketed.ne_nil (bracketed : Bracketed text) : text ≠ [] := by
  obtain ⟨opening, body, closing, -, -, rfl⟩ := bracketed
  simp

theorem Bracketed.open (bracketed : Bracketed (first ++ rest)) (some : first ≠ [])
    (more : rest ≠ []) : (Scan.outside 0).read first ≠ .outside 0 := by
  obtain ⟨opening, body, closing, balanced, kind, same⟩ := bracketed
  cases first with
  | nil => exact absurd rfl some
  | cons c first =>
      rw [List.cons_append, List.cons.injEq] at same
      obtain ⟨rfl, same⟩ := same
      have opened : (Scan.outside 0).step c = (Scan.outside 0).lift := by
        rcases kind with ⟨rfl, -⟩ | ⟨rfl, -⟩ <;> rfl
      have inBody : first <+: body := by
        have shorter : first.length ≤ body.length := by
          have lengths := congrArg List.length same
          have positive := List.length_pos_iff.mpr more
          simp only [List.length_append, List.length_singleton] at lengths
          omega
        exact List.prefix_of_prefix_length_le ⟨rest, same⟩ (List.prefix_append body _) shorter
      have alive : (Scan.outside 0).read first ≠ .dead := by
        intro dead
        obtain ⟨left, rfl⟩ := inBody
        have whole : (Scan.outside 0).read (first ++ left) = .outside 0 :=
          Scan.read_balanced balanced
        rw [Scan.read_append, dead, Scan.read_dead] at whole
        cases whole
      rw [Scan.read_cons, opened, Scan.read_lift alive]
      exact Scan.lift_ne_outside

theorem Scan.step_cases (state : Scan) (unescaped : c ≠ '\\') :
    (∃ depth, state.step c = .outside depth) ∨ (state.step c).In := by
  cases state with
  | outside depth =>
      by_cases quote : c = '"'
      · rw [quote]
        exact .inr trivial
      · have out : ((outside depth).step c).Out := Out.step trivial quote
        cases next : (outside depth).step c with
        | outside depth => exact .inl ⟨depth, rfl⟩
        | dead => exact .inr trivial
        | _ => rw [next] at out; contradiction
  | inside depth =>
      by_cases quote : c = '"'
      · exact .inl ⟨depth, by rw [quote]; rfl⟩
      · rw [step_inside quote unescaped]
        exact .inr trivial
  | escaped | dead => exact .inr trivial

/-- What stands before a bracketed text that is the end of another one does not end in a character
other than the backslash. -/
theorem Bracketed.not_suffix (bracketed : Bracketed text) (bracketed' : Bracketed text')
    (unescaped : c ≠ '\\') : text ≠ first ++ c :: text' := by
  rintro rfl
  have whole : (Scan.outside 0).read (first ++ c :: text') = .outside 0 :=
    Scan.read_balanced bracketed.balanced
  rw [Scan.read_append, Scan.read_cons] at whole
  rcases ((Scan.outside 0).read first).step_cases unescaped with ⟨depth, outside⟩ | inside
  · rw [outside, Scan.read_balanced bracketed'.balanced] at whole
    cases whole
    rw [List.append_cons] at bracketed
    apply bracketed.open (by simp) bracketed'.ne_nil
    rw [Scan.read_append]
    exact outside
  · have still := inside.balanced bracketed'.balanced
    rw [whole] at still
    exact still

/-- Two texts around the same character are split at the same place, or one end has the other. -/
theorem append_cons_cases {α : Type} {c : α} {first first' last last' : List α}
    (same : first ++ c :: last = first' ++ c :: last') : first = first' ∧ last = last' ∨
      (∃ left, last = left ++ c :: last') ∨ ∃ left, last' = left ++ c :: last := by
  rcases List.append_eq_append_iff.mp same with ⟨left, rfl, tail⟩ | ⟨left, rfl, tail⟩
  · cases left with
    | nil => exact .inl (by simpa using tail)
    | cons d left => exact .inr (.inl ⟨left, (List.cons.inj tail).2⟩)
  · cases left with
    | nil => exact .inl (by simpa [eq_comm] using tail)
    | cons d left => exact .inr (.inr ⟨left, (List.cons.inj tail).2⟩)

theorem Bracketed.separated (bracketed : Bracketed text) (bracketed' : Bracketed text')
    (unescaped : c ≠ '\\') (same : first ++ c :: text = rest ++ c :: text') :
    first = rest ∧ text = text' := by
  rcases append_cons_cases same with split | ⟨left, tail⟩ | ⟨left, tail⟩
  · exact split
  · exact absurd tail (bracketed.not_suffix bracketed' unescaped)
  · exact absurd tail (bracketed'.not_suffix bracketed unescaped)

end Bracketed

end Kanaka.Json
