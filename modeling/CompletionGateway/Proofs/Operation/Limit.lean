import CompletionGateway.Proofs.Operation.EndMark

/-!
# Limits

The loops of the reader stop when they are done, and their limits only make this plain: a turn that
goes on has taken a token, so each limit above the number of unread tokens comes to the same.  Values
are not read deeper than the deepest level, so it does not matter what a rule would do there.
-/

namespace CompletionGateway

namespace Rule

variable {α β : Type}

/-- Every limit above the number of unread tokens comes to the same. -/
def Unlimited (rule : Nat → Rule α) : Prop :=
  ∀ (s : Reading) (limit limit' : Nat), s.unread.length < limit → s.unread.length < limit' →
    rule limit s = rule limit' s

/-! ### Congruence -/

/-- What follows a rule need only agree where the rule can end. -/
theorem bind_congr_of_consumes {first : Rule α} {taken : Nat} (hfirst : Consumes taken first)
    {second second' : α → Rule β} {s : Reading}
    (h : ∀ value s', s'.unread.length + taken ≤ s.unread.length →
      second value s' = second' value s') :
    (first >>= second) s = (first >>= second') s := by
  have hleaves := hfirst s
  rw [bind_apply, bind_apply]
  cases hrule : first s with
  | done value s' =>
      rw [hrule] at hleaves
      exact h value s' hleaves
  | failed s' => rfl

theorem bind_congr_left {first first' : Rule α} {second : α → Rule β} {s : Reading}
    (h : first s = first' s) : (first >>= second) s = (first' >>= second) s := by
  rw [bind_apply, bind_apply, h]

theorem nested_congr {rule rule' : Rule α} {s : Reading}
    (h : rule { s with depth := s.depth + 1 } = rule' { s with depth := s.depth + 1 }) :
    nested rule s = nested rule' s := by
  rw [nested, nested, h]

theorem literal_congr (kind : LiteralKind) {body body' : Rule ArgValue} {s : Reading}
    (h : body s = body' s) : literal kind body s = literal kind body' s := by
  rw [literal, literal, h]

/-! ### Entries, items and values -/

section Inside

variable {inner inner' : Rule ArgValue} {size : Nat} (htaken : Consumes 1 inner)
variable (hinner : ∀ s : Reading, s.unread.length ≤ size → inner s = inner' s)

include htaken hinner

theorem entries_congr (closing : Punctuator) (delimiter : Delimiter) {key : Rule String}
    (hkey : Consumes 1 key) {limit limit' : Nat} (before : Arguments) {s : Reading}
    (hsize : s.unread.length ≤ size) (hlimit : s.unread.length < limit)
    (hlimit' : s.unread.length < limit') :
    entries closing delimiter key inner limit before s =
      entries closing delimiter key inner' limit' before s := by
  induction limit generalizing limit' before s with
  | zero => omega
  | succ limit ih =>
      obtain ⟨limit', rfl⟩ := Nat.exists_eq_add_one_of_ne_zero (by omega : limit' ≠ 0)
      rw [entries, entries, nextIs_bind, nextIs_bind]
      split
      · rfl
      rw [atEnd_bind, atEnd_bind]
      split
      · rfl
      refine bind_congr_of_consumes hkey fun name s₁ hs₁ => ?_
      refine bind_congr_of_consumes (consumes_expect .colon) fun _ s₂ hs₂ => ?_
      refine (bind_congr_of_consumes htaken fun found s₃ hs₃ => ?_).trans
        (bind_congr_left (hinner s₂ (by omega)))
      exact ih _ (by omega) (by omega) (by omega)

theorem items_congr {limit limit' : Nat} {s : Reading} (hsize : s.unread.length ≤ size)
    (hlimit : s.unread.length < limit) (hlimit' : s.unread.length < limit') :
    items inner limit s = items inner' limit' s := by
  induction limit generalizing limit' s with
  | zero => omega
  | succ limit ih =>
      obtain ⟨limit', rfl⟩ := Nat.exists_eq_add_one_of_ne_zero (by omega : limit' ≠ 0)
      rw [items, items, nextIs_bind, nextIs_bind]
      split
      · rfl
      rw [atEnd_bind, atEnd_bind]
      split
      · rfl
      refine (bind_congr_of_consumes htaken fun first s₁ hs₁ => ?_).trans
        (bind_congr_left (hinner s hsize))
      exact bind_congr_left (ih (by omega) (by omega) (by omega))

/-- The bracket in front of the entries or items is not left for their values. -/
theorem body_congr (kind : LiteralKind) {s : Reading} (hsize : s.unread.length ≤ size + 1) :
    kind.body inner s = kind.body inner' s := by
  cases kind with
  | object =>
      refine bind_congr_of_consumes (consumes_openGroup .openBrace .objectValue)
        fun _ s₁ hs₁ => ?_
      exact bind_congr_left (entries_congr htaken hinner .closeBrace .brace consumes_objectKey []
        (by omega) (Nat.lt_succ_self _) (Nat.lt_succ_self _))
  | list =>
      refine bind_congr_of_consumes (consumes_openGroup .openBracket .listValue)
        fun _ s₁ hs₁ => ?_
      exact bind_congr_left (items_congr htaken hinner (by omega) (Nat.lt_succ_self _)
        (Nat.lt_succ_self _))

theorem valueAt_congr (token : Token) {s : Reading} (hsize : s.unread.length ≤ size + 1) :
    valueAt inner token s = valueAt inner' token s := by
  rw [valueAt, valueAt, ask_bind, ask_bind]
  split
  · rfl
  cases token.kind with
  | punctuator mark =>
      cases mark with
      | openBrace => exact literal_congr .object (body_congr htaken hinner .object hsize)
      | openBracket => exact literal_congr .list (body_congr htaken hinner .list hsize)
      | _ => rfl
  | _ => rfl

end Inside

theorem unlimited_valueWithin : Unlimited valueWithin := by
  intro s limit limit' hlimit hlimit'
  -- the token that a value begins with is not among those that are left for its parts
  induction limit generalizing limit' s with
  | zero => omega
  | succ limit ih =>
      obtain ⟨limit', rfl⟩ := Nat.exists_eq_add_one_of_ne_zero (by omega : limit' ≠ 0)
      cases hunread : s.unread with
      | nil => rw [valueWithin_of_nil hunread, valueWithin_of_nil hunread]
      | cons token rest =>
          rw [valueWithin_of_unread limit hunread, valueWithin_of_unread limit' hunread]
          rw [hunread, List.length_cons] at hlimit hlimit'
          have hinner : ∀ s' : Reading, s'.unread.length ≤ rest.length →
              valueWithin limit s' = valueWithin limit' s' :=
            fun s' hs' => ih s' limit' (by omega) (by omega)
          exact nested_congr (valueAt_congr (consumes_valueWithin limit) hinner token
            (by rw [hunread, List.length_cons]))

theorem unlimited_entries (closing : Punctuator) (delimiter : Delimiter) {key : Rule String}
    (hkey : Consumes 1 key) (before : Arguments) :
    Unlimited fun limit => entries closing delimiter key value limit before :=
  fun _ _ _ hlimit hlimit' => entries_congr consumes_value (fun _ _ => rfl) closing delimiter hkey
    before (Nat.le_refl _) hlimit hlimit'

theorem unlimited_items : Unlimited (items value) :=
  fun _ _ _ hlimit hlimit' => items_congr consumes_value (fun _ _ => rfl) (Nat.le_refl _) hlimit
    hlimit'

/-! ### Arguments and fields -/

theorem unlimited_looseArguments (before : Arguments) :
    Unlimited fun limit => looseArguments limit before := by
  intro s limit limit' hlimit hlimit'
  induction limit generalizing limit' before s with
  | zero => omega
  | succ limit ih =>
      obtain ⟨limit', rfl⟩ := Nat.exists_eq_add_one_of_ne_zero (by omega : limit' ≠ 0)
      dsimp only
      rw [looseArguments, looseArguments, atEnd_bind, atEnd_bind]
      split
      · rfl
      refine bind_congr_of_consumes consumes_argumentName fun name s₁ hs₁ => ?_
      refine bind_congr_of_consumes (consumes_expect .colon) fun _ s₂ hs₂ => ?_
      refine bind_congr_of_consumes consumes_value fun found s₃ hs₃ => ?_
      exact ih _ s₃ limit' (by omega) (by omega)

theorem unlimited_fields : Unlimited fields := by
  intro s limit limit' hlimit hlimit'
  induction limit generalizing limit' s with
  | zero => omega
  | succ limit ih =>
      obtain ⟨limit', rfl⟩ := Nat.exists_eq_add_one_of_ne_zero (by omega : limit' ≠ 0)
      have hmore : (do return (← field) :: (← fields limit) : Rule (List Field)) s =
          (do return (← field) :: (← fields limit') : Rule (List Field)) s :=
        bind_congr_of_consumes consumes_field fun first s₁ hs₁ =>
          bind_congr_left (ih s₁ limit' (by omega) (by omega))
      rw [fields, fields, ask_bind, ask_bind]
      generalize s.nextKind? = next
      cases next with
      | none => rfl
      | some kind =>
          cases kind with
          | punctuator mark =>
              cases mark with
              | closeBrace | ellipsis => rfl
              | _ => exact hmore
          | finish => rfl
          | _ => exact hmore

/-! ### The deepest level -/

/-- What the next tokens mean where a value is needed, `inner` being the rule for the values inside. -/
def valueBody (inner : Rule ArgValue) : Rule ArgValue := do
  match ← ask (·.next?) with
  | none => refuseNext ["value"]
  | some token => valueAt inner token

/-- The rule for values with something else in place of what it does on each level. -/
def valueBy (body : Rule ArgValue → Rule ArgValue) : (limit : Nat) → Rule ArgValue
  | 0 => nested (refuseNext ["value"])
  | limit + 1 => nested (body (valueBy body limit))

/-- What a rule for values would do below the deepest level does not matter. -/
def IgnoresBelowDeepest : Prop :=
  ∀ body : Rule ArgValue → Rule ArgValue,
    (∀ inner (s : Reading), s.depth ≤ deepestValue → body inner s = valueBody inner s) →
      valueBy body = valueWithin

/-- No value is read there. -/
theorem ignoresBelowDeepest : IgnoresBelowDeepest := by
  intro body h
  funext limit
  induction limit with
  | zero => rw [valueBy, valueWithin]
  | succ limit ih =>
      funext s
      rw [valueBy, valueWithin, ih, nested, nested]
      split
      · rename_i hroom
        rw [h (valueWithin limit) { s with depth := s.depth + 1 } hroom]
        rfl
      · rfl

end Rule

end CompletionGateway
