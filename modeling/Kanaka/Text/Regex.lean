import Mathlib.Data.List.Basic

/-!
# Backtracking regular expressions

An expression tells where its matches end, in the order in which an engine tries them.
-/

namespace Kanaka.Text

/-- A place in a text: what stands before it, and what is left. -/
structure At (α : Type) where
  before : Option α
  rest : List α
deriving DecidableEq

inductive Regex (α : Type) where
  | one (allows : α → Bool)
  | look (holds : Option α → Option α → Bool)
  | seq (first second : Regex α)
  | many (body : Regex α) (least : Nat) (most : Option Nat) (lazy : Bool)

variable {α : Type}

/-- Matches one after another. Beyond the least number of them, an empty one does not count, so
that the fuel of that number and what is left of the text is enough. -/
def repeated (body : At α → List (At α)) (lazy : Bool) :
    Nat → Nat → Option Nat → At α → List (At α)
  | 0, _, _, here => [here]
  | fuel + 1, least, most, here =>
      if most = some 0 then [here]
      else
        let more := (body here).flatMap fun next =>
          if least = 0 ∧ next.rest.length = here.rest.length then []
          else repeated body lazy fuel (least - 1) (most.map (· - 1)) next
        if 0 < least then more
        else if lazy then here :: more
        else more ++ [here]

namespace Regex

def ends : Regex α → At α → List (At α)
  | .one _, ⟨_, []⟩ => []
  | .one allows, ⟨_, c :: rest⟩ => if allows c then [⟨some c, rest⟩] else []
  | .look holds, here => if holds here.before here.rest.head? then [here] else []
  | .seq first second, here => (first.ends here).flatMap second.ends
  | .many body least most lazy, here =>
      repeated body.ends lazy (least + here.rest.length) least most here

/-- Whether there is a match anywhere. -/
def test (regex : Regex α) (before : Option α) : List α → Bool
  | [] => (regex.ends ⟨before, []⟩).length > 0
  | c :: rest => (regex.ends ⟨before, c :: rest⟩).length > 0 || regex.test (some c) rest

/-- The text with every match replaced. Each turn leaves less of it. -/
def replaceFrom (regex : Regex α) (replacement : List α) : Nat → Option α → List α → List α
  | 0, _, text => text
  | fuel + 1, before, text =>
      let onward (skipped : List α) := match text with
        | [] => skipped
        | c :: rest => skipped ++ c :: regex.replaceFrom replacement fuel (some c) rest
      match (regex.ends ⟨before, text⟩).head? with
      | some next =>
          if next.rest.length < text.length then
            replacement ++ regex.replaceFrom replacement fuel next.before next.rest
          else onward replacement
      | none => onward []

def replaceAll (regex : Regex α) (replacement text : List α) : List α :=
  regex.replaceFrom replacement (text.length + 1) none text

/-! ## What a match reads -/

/-- Whether the letter is one of the expression's. -/
def reads : Regex α → α → Bool
  | .one allows, c => allows c
  | .look _, _ => false
  | .seq first second, c => first.reads c || second.reads c
  | .many body _ _ _, c => body.reads c

end Regex

/-- From one place to another one, over letters of a kind. -/
def Over (kind : α → Prop) (here next : At α) : Prop :=
  ∃ word, here.rest = word ++ next.rest ∧ ∀ c ∈ word, kind c

section Over
variable {kind kind' : α → Prop} {here next last : At α}

theorem Over.refl : Over kind here here := ⟨[], rfl, by simp⟩

theorem Over.trans (first : Over kind here next) (second : Over kind next last) :
    Over kind here last := by
  obtain ⟨word, same, all⟩ := first
  obtain ⟨word', same', all'⟩ := second
  refine ⟨word ++ word', ?_, ?_⟩
  · rw [same, same', List.append_assoc]
  · simpa [or_imp, forall_and] using ⟨all, all'⟩

theorem Over.mono (along : Over kind here next) (weaker : ∀ c, kind c → kind' c) :
    Over kind' here next := by
  obtain ⟨word, same, all⟩ := along
  exact ⟨word, same, fun c member => weaker c (all c member)⟩

theorem Over.shorter (along : Over kind here next) : next.rest.length ≤ here.rest.length := by
  obtain ⟨word, same, -⟩ := along
  rw [same, List.length_append]
  exact Nat.le_add_left ..

theorem over_repeated {body : At α → List (At α)} {lazy : Bool}
    (reads : ∀ here, ∀ next ∈ body here, Over kind here next) (fuel least : Nat)
    (most : Option Nat) (here : At α) (member : next ∈ repeated body lazy fuel least most here) :
    Over kind here next := by
  induction fuel generalizing least most here with
  | zero =>
      cases List.mem_singleton.mp member
      exact .refl
  | succ fuel ih =>
      have onward : next ∈ ((body here).flatMap fun next =>
          if least = 0 ∧ next.rest.length = here.rest.length then []
          else repeated body lazy fuel (least - 1) (most.map (· - 1)) next) →
          Over kind here next := by
        intro later
        obtain ⟨middle, found, rest⟩ := List.mem_flatMap.mp later
        split at rest
        · cases rest
        · exact (reads here middle found).trans (ih _ _ _ rest)
      unfold repeated at member
      split_ifs at member
      · cases List.mem_singleton.mp member
        exact .refl
      · exact onward member
      · rcases List.mem_cons.mp member with rfl | later
        · exact .refl
        · exact onward later
      · rcases List.mem_append.mp member with later | same
        · exact onward later
        · cases List.mem_singleton.mp same
          exact .refl

end Over

namespace Regex
variable {regex : Regex α} {here next : At α}

theorem over_ends (member : next ∈ regex.ends here) : Over (regex.reads · = true) here next := by
  induction regex generalizing here next with
  | one allows =>
      obtain ⟨before, rest⟩ := here
      cases rest with
      | nil => cases member
      | cons c rest =>
          unfold ends at member
          split at member
          · rename_i allowed
            cases List.mem_singleton.mp member
            exact ⟨[c], rfl, by simpa [reads] using allowed⟩
          · cases member
  | look holds =>
      unfold ends at member
      split at member
      · cases List.mem_singleton.mp member
        exact .refl
      · cases member
  | seq first second ih ih' =>
      obtain ⟨middle, found, rest⟩ := List.mem_flatMap.mp member
      apply ((ih found).mono _).trans ((ih' rest).mono _) <;> simp +contextual [reads]
  | many body least most lazy ih =>
      exact over_repeated (fun _ _ found => ih found) _ _ _ _ member

/-! ### The fuel is enough -/

theorem repeated_succ {body : At α → List (At α)}
    (shrinks : ∀ here, ∀ next ∈ body here, next.rest.length ≤ here.rest.length) (lazy : Bool)
    (fuel least : Nat) (most : Option Nat) (here : At α) (enough : least + here.rest.length ≤ fuel) :
    repeated body lazy (fuel + 1) least most here = repeated body lazy fuel least most here := by
  induction fuel generalizing least most here with
  | zero =>
      have stays : ∀ next ∈ body here, least = 0 ∧ next.rest.length = here.rest.length := by
        intro next found
        have shorter := shrinks here next found
        omega
      have more : ((body here).flatMap fun next =>
          if least = 0 ∧ next.rest.length = here.rest.length then []
          else repeated body lazy 0 (least - 1) (most.map (· - 1)) next) = [] := by
        rw [List.flatMap_eq_nil_iff]
        exact fun next found => if_pos (stays next found)
      unfold repeated
      rw [more, if_neg (show ¬0 < least by omega)]
      cases lazy <;> split <;> rfl
  | succ fuel ih =>
      have more : ∀ next ∈ body here,
          (if least = 0 ∧ next.rest.length = here.rest.length then []
            else repeated body lazy (fuel + 1) (least - 1) (most.map (· - 1)) next) =
          if least = 0 ∧ next.rest.length = here.rest.length then []
            else repeated body lazy fuel (least - 1) (most.map (· - 1)) next := by
        intro next found
        have shorter := shrinks here next found
        split
        · rfl
        · exact ih _ _ _ (by omega)
      rw [repeated, repeated, List.flatMap_congr more]

theorem repeated_of_le {body : At α → List (At α)}
    (shrinks : ∀ here, ∀ next ∈ body here, next.rest.length ≤ here.rest.length) (lazy : Bool)
    {fuel least : Nat} {most : Option Nat} (enough : least + here.rest.length ≤ fuel) :
    repeated body lazy fuel least most here =
      repeated body lazy (least + here.rest.length) least most here := by
  obtain ⟨extra, rfl⟩ := Nat.exists_eq_add_of_le enough
  clear enough
  induction extra with
  | zero => rfl
  | succ extra ih =>
      rw [← Nat.add_assoc, repeated_succ shrinks lazy _ least most here (Nat.le_add_right ..), ih]

theorem ends_many {body : Regex α} {least fuel : Nat} {most : Option Nat} {lazy : Bool}
    (enough : least + here.rest.length ≤ fuel) :
    (many body least most lazy).ends here = repeated body.ends lazy fuel least most here :=
  (repeated_of_le (fun _ _ found => (over_ends found).shorter) lazy enough).symm

theorem replaceFrom_succ (replacement : List α) (fuel : Nat) (before : Option α) (text : List α)
    (enough : text.length < fuel) : regex.replaceFrom replacement (fuel + 1) before text =
      regex.replaceFrom replacement fuel before text := by
  induction fuel generalizing before text with
  | zero => cases enough
  | succ fuel ih =>
      have onward : ∀ c rest, text = c :: rest →
          regex.replaceFrom replacement (fuel + 1) (some c) rest =
            regex.replaceFrom replacement fuel (some c) rest := by
        rintro c rest rfl
        exact ih (some c) rest (by simpa using enough)
      unfold replaceFrom
      cases (regex.ends ⟨before, text⟩).head? with
      | none => cases text <;> simp [onward]
      | some next =>
          by_cases further : next.rest.length < text.length
          · simp only [further, if_true]
            rw [ih next.before next.rest (by omega)]
          · simp only [further, if_false]
            cases text <;> simp [onward]

theorem replaceFrom_of_lt (replacement : List α) {fuel : Nat} {text : List α}
    (enough : text.length < fuel) :
    regex.replaceFrom replacement fuel none text = regex.replaceAll replacement text := by
  obtain ⟨extra, rfl⟩ := Nat.exists_eq_add_of_lt enough
  clear enough
  induction extra with
  | zero => rfl
  | succ extra ih =>
      rw [← ih]
      exact replaceFrom_succ replacement _ none text (by omega)

/-! ### Anchors -/

theorem test_of_before {text : List α} (anchored : ∀ c rest, regex.ends ⟨some c, rest⟩ = []) (c : α) :
    regex.test (some c) text = false := by
  induction text generalizing c with
  | nil => simp [test, anchored]
  | cons d rest ih => simp [test, anchored, ih]

theorem exists_of_test {text : List α} (anchored : ∀ c rest, regex.ends ⟨some c, rest⟩ = [])
    (found : regex.test none text = true) : ∃ next, next ∈ regex.ends ⟨none, text⟩ := by
  apply List.exists_mem_of_length_pos
  cases text with
  | nil => simpa [test] using found
  | cons c rest => simpa [test, test_of_before anchored] using found

end Regex

end Kanaka.Text
