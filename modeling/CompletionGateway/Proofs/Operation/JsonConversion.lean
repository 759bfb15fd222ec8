import CompletionGateway.Proofs.Execution.Substitution
import CompletionGateway.Proofs.Json.Literal
import CompletionGateway.Proofs.Number.Value

/-!
# From argument values to JSON and back

Both conversions keep everything but the spelling of numbers.  An argument value comes back equal,
where only the sign of a zero can get lost.  A JSON value comes back with its numbers normalized:
those of a whole value below `2 ^ 53` in magnitude are integers, the others binary64.  A second trip
changes nothing, because equal argument values have one JSON value.
-/

namespace CompletionGateway

/-! ### Numbers -/

/-- A whole number in JSON. -/
def JsonNumber.ofInt : ℤ → JsonNumber
  | .ofNat n => natural n
  | .negSucc n => negative (n + 1)

/-- How JSON has a binary64 number: as an integer if the value is whole and below `2 ^ 53` in
magnitude, and as it is otherwise. -/
def JsonNumber.ofBinary64 (x : Binary64) : JsonNumber :=
  match x.value? with
  | some v => if v.den = 1 ∧ |v| < 2 ^ 53 then ofInt v.num else real x
  | none => real x

/-- The form that a number has after it was an argument. -/
def JsonNumber.normalized (n : JsonNumber) : JsonNumber := ofBinary64 n.toBinary64

namespace JsonNumber

theorem toBinary64_ofInt (k : ℤ) : (ofInt k).toBinary64 = .ofNat (k < 0) k.natAbs := by
  cases k with
  | ofNat n => rw [decide_eq_false (by simp)]; rfl
  | negSucc n => rw [decide_eq_true (Int.negSucc_lt_zero n)]; rfl

theorem ofBinary64_of_whole {x : Binary64} {k : ℤ} (hvalue : x.value? = some (k : ℚ))
    (hsmall : k.natAbs < safeIntegerBound) : ofBinary64 x = ofInt k := by
  have habs : |(k : ℚ)| < 2 ^ 53 := by
    have hbound : (k.natAbs : ℤ) < 2 ^ 53 := Int.ofNat_lt.2 hsmall
    rw [Int.natCast_natAbs] at hbound
    exact_mod_cast hbound
  simp only [ofBinary64, hvalue]
  rw [if_pos ⟨Rat.den_intCast k, habs⟩, Rat.num_intCast]

theorem ofBinary64_of_not_whole {x : Binary64}
    (h : ∀ k : ℤ, x.value? = some (k : ℚ) → safeIntegerBound ≤ k.natAbs) :
    ofBinary64 x = real x := by
  cases hvalue : x.value? with
  | none => simp only [ofBinary64, hvalue]
  | some v =>
      simp only [ofBinary64, hvalue]
      apply if_neg
      rintro ⟨hden, hsmall⟩
      have hwhole : (v.num : ℚ) = v := (Rat.den_eq_one_iff v).1 hden
      have hlarge : (2 ^ 53 : ℤ) ≤ v.num.natAbs :=
        Int.ofNat_le.2 (h v.num (by rw [hvalue, hwhole]))
      rw [Int.natCast_natAbs] at hlarge
      rw [← hwhole] at hsmall
      exact absurd (by exact_mod_cast hsmall : |v.num| < 2 ^ 53) (not_lt.2 hlarge)

end JsonNumber

/-- The JSON of a finite number follows its value. -/
theorem Json.ofBinary64_eq {x : Binary64} (h : x.isFinite = true) :
    Json.ofBinary64 x = .number (JsonNumber.ofBinary64 x) := by
  cases x with
  | infinite negative => cases h
  | nan => cases h
  | finite negative rank =>
      rw [Json.ofBinary64]
      cases hwhole : Binary64.wholeOfRank? rank.val with
      | none =>
          dsimp only
          rw [JsonNumber.ofBinary64_of_not_whole]
          intro k hk
          rw [Binary64.wholeOfRank?_of_value? hk] at hwhole
          cases hwhole
      | some n =>
          have hvalue := Binary64.value?_of_wholeOfRank? hwhole negative
          have habs : (if negative then -(n : ℤ) else n : ℤ).natAbs = n := by
            cases negative <;> simp
          dsimp only
          by_cases hsmall : n < safeIntegerBound
          · rw [if_pos hsmall, JsonNumber.ofBinary64_of_whole hvalue (by rw [habs]; exact hsmall)]
            cases negative with
            | false => rw [if_neg (by simp)]; rfl
            | true => cases n <;> rfl
          · rw [if_neg hsmall, JsonNumber.ofBinary64_of_not_whole]
            intro k hk
            have hcast := Option.some.inj (hk.symm.trans hvalue)
            rw [Int.cast_inj.1 hcast, habs]
            exact Nat.le_of_not_lt hsmall

namespace Binary64.SameValue

/-- An integer of JSON stands for the number that it was made from. -/
theorem toBinary64_ofBinary64 {x : Binary64} (h : x.isFinite = true) :
    SameValue (JsonNumber.ofBinary64 x).toBinary64 x := by
  cases x with
  | infinite negative => cases h
  | nan => cases h
  | finite negative rank =>
      by_cases hwhole : ∃ k : ℤ, (finite negative rank).value? = some (k : ℚ) ∧
        k.natAbs < safeIntegerBound
      · obtain ⟨k, hk, hsmall⟩ := hwhole
        have hquanta := wholeOfRank?_eq_some_iff.1 (wholeOfRank?_of_value? hk)
        rw [JsonNumber.ofBinary64_of_whole hk hsmall, JsonNumber.toBinary64_ofInt,
          ofNat_of_quantaOfRank hquanta, ofRank, dif_pos rank.isLt]
        refine ⟨k, ?_, hk⟩
        rw [value?_eq_intCast_iff, signedQuanta, hquanta, Int.natCast_mul, Int.natCast_natAbs]
        -- the sign is now that of the value, which may not be the sign of a zero
        by_cases hneg : k < 0
        · rw [if_pos (decide_eq_true hneg), abs_of_neg hneg, Int.neg_mul, Int.neg_neg]
        · rw [if_neg (by simpa using hneg), abs_of_nonneg (Int.not_lt.1 hneg)]
      · rw [JsonNumber.ofBinary64_of_not_whole fun k hk =>
          Nat.le_of_not_lt fun hlt => hwhole ⟨k, hk, hlt⟩]
        exact SameValue.refl h

/-- Equal numbers are one number in JSON. -/
theorem ofBinary64_eq {x y : Binary64} (h : SameValue x y) :
    JsonNumber.ofBinary64 x = JsonNumber.ofBinary64 y := by
  rcases h.eq_or_zero with rfl | hzero
  · rfl
  · obtain ⟨v, hx, hy⟩ := h
    obtain rfl : v = 0 := Option.some.inj (hx.symm.trans hzero)
    have hbound : (0 : ℤ).natAbs < safeIntegerBound := by decide
    rw [JsonNumber.ofBinary64_of_whole (by rw [hx, Int.cast_zero]) hbound,
      JsonNumber.ofBinary64_of_whole (by rw [hy, Int.cast_zero]) hbound]

theorem isFinite_left {x y : Binary64} (h : SameValue x y) : x.isFinite = true := by
  obtain ⟨v, hx, -⟩ := h
  cases x with
  | finite negative rank => rfl
  | infinite negative => cases hx
  | nan => cases hx

theorem symm {x y : Binary64} (h : SameValue x y) : SameValue y x := by
  obtain ⟨v, hx, hy⟩ := h
  exact ⟨v, hy, hx⟩

end Binary64.SameValue

namespace Json

mutual

/-- The value with each of its numbers replaced. -/
def mapNumbers (f : JsonNumber → JsonNumber) : Json → Json
  | null => null
  | bool b => bool b
  | number n => number (f n)
  | string s => string s
  | array items => array (mapItemNumbers f items)
  | object members => object (mapMemberNumbers f members)

/-- The items of an array with each of their numbers replaced. -/
def mapItemNumbers (f : JsonNumber → JsonNumber) : List Json → List Json
  | [] => []
  | value :: rest => mapNumbers f value :: mapItemNumbers f rest

/-- The members of an object with each of their numbers replaced. -/
def mapMemberNumbers (f : JsonNumber → JsonNumber) : List (String × Json) → List (String × Json)
  | [] => []
  | (name, value) :: rest => (name, mapNumbers f value) :: mapMemberNumbers f rest

end

end Json

namespace ArgValue

/-! ### Values -/

mutual

/-- Whether all numbers are finite. -/
def FiniteNumbers : ArgValue → Prop
  | number x => x.isFinite = true
  | object entries => EntriesFiniteNumbers entries
  | list items => ItemsFiniteNumbers items
  | _ => True

/-- Whether all numbers of the entries of an object are finite. -/
def EntriesFiniteNumbers : List (String × ArgValue) → Prop
  | [] => True
  | (_, value) :: rest => FiniteNumbers value ∧ EntriesFiniteNumbers rest

/-- Whether all numbers of the items of a list are finite. -/
def ItemsFiniteNumbers : List ArgValue → Prop
  | [] => True
  | value :: rest => FiniteNumbers value ∧ ItemsFiniteNumbers rest

end

mutual

/-- Equality, where numbers are equal if their values are: the names of an object are the same in
the same order. -/
inductive Equal : ArgValue → ArgValue → Prop
  | string (s : String) : Equal (string s) (string s)
  | number {x y : Binary64} (h : x.SameValue y) : Equal (number x) (number y)
  | bool (b : Bool) : Equal (bool b) (bool b)
  | null : Equal null null
  | «variable» (name : String) : Equal («variable» name) («variable» name)
  | object {entries entries' : List (String × ArgValue)} (h : EntriesEqual entries entries') :
      Equal (object entries) (object entries')
  | list {items items' : List ArgValue} (h : ItemsEqual items items') :
      Equal (list items) (list items')

/-- Equality of the entries of objects. -/
inductive EntriesEqual : List (String × ArgValue) → List (String × ArgValue) → Prop
  | nil : EntriesEqual [] []
  | cons (name : String) {value value' : ArgValue} {rest rest' : List (String × ArgValue)}
      (h : Equal value value') (hrest : EntriesEqual rest rest') :
      EntriesEqual ((name, value) :: rest) ((name, value') :: rest')

/-- Equality of the items of lists. -/
inductive ItemsEqual : List ArgValue → List ArgValue → Prop
  | nil : ItemsEqual [] []
  | cons {value value' : ArgValue} {rest rest' : List ArgValue}
      (h : Equal value value') (hrest : ItemsEqual rest rest') :
      ItemsEqual (value :: rest) (value' :: rest')

end

mutual

/-- The JSON of a value stands for an equal value. -/
theorem equal_ofJson : ∀ (value : ArgValue) {json : Json}, value.toJson? = some json →
    value.FiniteNumbers → Equal (ofJson json) value
  | string s, json, h, _ => by
      obtain rfl := Option.some.inj h
      exact .string s
  | number x, json, h, hfinite => by
      obtain rfl := Option.some.inj h
      rw [Json.ofBinary64_eq hfinite, ofJson]
      exact .number (.toBinary64_ofBinary64 hfinite)
  | bool b, json, h, _ => by
      obtain rfl := Option.some.inj h
      exact .bool b
  | null, json, h, _ => by
      obtain rfl := Option.some.inj h
      exact .null
  | «variable» name, json, h, _ => by cases h
  | object entries, json, h, hfinite => by
      obtain ⟨members, hmembers, rfl⟩ := Option.map_eq_some_iff.1 h
      exact .object (entriesEqual_ofJson entries hmembers hfinite)
  | list items, json, h, hfinite => by
      obtain ⟨values, hvalues, rfl⟩ := Option.map_eq_some_iff.1 h
      exact .list (itemsEqual_ofJson items hvalues hfinite)

theorem entriesEqual_ofJson : ∀ (entries : List (String × ArgValue)) {members : List (String × Json)},
    entriesToJson? entries = some members → EntriesFiniteNumbers entries →
      EntriesEqual (entriesOfJson members) entries
  | [], members, h, _ => by
      obtain rfl := Option.some.inj h
      exact .nil
  | (name, value) :: rest, members, h, hfinite => by
      obtain ⟨json, hjson, h⟩ := Option.bind_eq_some_iff.1 h
      obtain ⟨more, hmore, h⟩ := Option.bind_eq_some_iff.1 h
      obtain rfl := Option.some.inj h
      exact .cons name (equal_ofJson value hjson hfinite.1)
        (entriesEqual_ofJson rest hmore hfinite.2)

theorem itemsEqual_ofJson : ∀ (items : List ArgValue) {values : List Json},
    itemsToJson? items = some values → ItemsFiniteNumbers items →
      ItemsEqual (itemsOfJson values) items
  | [], values, h, _ => by
      obtain rfl := Option.some.inj h
      exact .nil
  | value :: rest, values, h, hfinite => by
      obtain ⟨json, hjson, h⟩ := Option.bind_eq_some_iff.1 h
      obtain ⟨more, hmore, h⟩ := Option.bind_eq_some_iff.1 h
      obtain rfl := Option.some.inj h
      exact .cons (equal_ofJson value hjson hfinite.1) (itemsEqual_ofJson rest hmore hfinite.2)

end

mutual

/-- Equal values have one JSON value. -/
theorem Equal.toJson?_eq : ∀ {value value' : ArgValue}, Equal value value' →
    value.toJson? = value'.toJson?
  | _, _, .string _ | _, _, .bool _ | _, _, .null | _, _, .variable _ => rfl
  | _, _, .number h => by
      rw [toJson?, toJson?, Json.ofBinary64_eq h.isFinite_left, h.ofBinary64_eq,
        ← Json.ofBinary64_eq h.symm.isFinite_left]
  | _, _, .object h => by rw [toJson?, toJson?, h.toJson?_eq]
  | _, _, .list h => by rw [toJson?, toJson?, h.toJson?_eq]

theorem EntriesEqual.toJson?_eq : ∀ {entries entries' : List (String × ArgValue)},
    EntriesEqual entries entries' → entriesToJson? entries = entriesToJson? entries'
  | _, _, .nil => rfl
  | _, _, .cons name h hrest => by
      rw [entriesToJson?, entriesToJson?, h.toJson?_eq, hrest.toJson?_eq]

theorem ItemsEqual.toJson?_eq : ∀ {items items' : List ArgValue},
    ItemsEqual items items' → itemsToJson? items = itemsToJson? items'
  | _, _, .nil => rfl
  | _, _, .cons h hrest => by
      rw [itemsToJson?, itemsToJson?, h.toJson?_eq, hrest.toJson?_eq]

end

mutual

theorem finiteNumbers_ofJson : ∀ json : Json, json.Valid → (ofJson json).FiniteNumbers
  | .null, _ | .bool _, _ | .string _, _ => trivial
  | .number _, h => JsonNumber.isFinite_toBinary64 h
  | .array items, h => itemsFiniteNumbers_ofJson items h
  | .object members, h => entriesFiniteNumbers_ofJson members h.2

theorem itemsFiniteNumbers_ofJson : ∀ items : List Json, Json.ItemsValid items →
    ItemsFiniteNumbers (itemsOfJson items)
  | [], _ => trivial
  | value :: rest, h => ⟨finiteNumbers_ofJson value h.1, itemsFiniteNumbers_ofJson rest h.2⟩

theorem entriesFiniteNumbers_ofJson : ∀ members : List (String × Json), Json.MembersValid members →
    EntriesFiniteNumbers (entriesOfJson members)
  | [], _ => trivial
  | (_, value) :: rest, h =>
      ⟨finiteNumbers_ofJson value h.1, entriesFiniteNumbers_ofJson rest h.2⟩

end

mutual

/-- A JSON value comes back with its numbers normalized. -/
theorem toJson?_ofJson : ∀ json : Json, json.Valid →
    (ofJson json).toJson? = some (json.mapNumbers .normalized)
  | .null, _ | .bool _, _ | .string _, _ => rfl
  | .number n, h => by
      rw [ofJson, toJson?, Json.ofBinary64_eq (JsonNumber.isFinite_toBinary64 h)]
      rfl
  | .array items, h => by
      rw [ofJson, toJson?, itemsToJson?_ofJson items h]
      rfl
  | .object members, h => by
      rw [ofJson, toJson?, entriesToJson?_ofJson members h.2]
      rfl

theorem itemsToJson?_ofJson : ∀ items : List Json, Json.ItemsValid items →
    itemsToJson? (itemsOfJson items) = some (Json.mapItemNumbers .normalized items)
  | [], _ => rfl
  | value :: rest, h => by
      rw [itemsOfJson, itemsToJson?, toJson?_ofJson value h.1, itemsToJson?_ofJson rest h.2]
      rfl

theorem entriesToJson?_ofJson : ∀ members : List (String × Json), Json.MembersValid members →
    entriesToJson? (entriesOfJson members) = some (Json.mapMemberNumbers .normalized members)
  | [], _ => rfl
  | (name, value) :: rest, h => by
      rw [entriesOfJson, entriesToJson?, toJson?_ofJson value h.1, entriesToJson?_ofJson rest h.2]
      rfl

end

-- the bound is the first whole number that stays binary64; negative zero becomes an integer
example : (JsonNumber.natural (2 ^ 53)).normalized = .real (.ofNat false (2 ^ 53)) := by
  decide +kernel
example : (JsonNumber.real (.ofNat false (2 ^ 53 - 1))).normalized = .natural (2 ^ 53 - 1) := by
  decide +kernel
example : (JsonNumber.real (.zero true)).normalized = .natural 0 := by decide +kernel

/-- Nothing is lost between argument values and JSON values.  A value without variables, all of
whose numbers are finite, has a JSON value, which stands for an equal value.  A JSON value comes
back with its numbers normalized, and what came back comes back as it is. -/
theorem conversion_lossless :
    (∀ value : ArgValue, value.containsVariable = false → value.FiniteNumbers →
      ∃ json, value.toJson? = some json ∧ Equal (ofJson json) value) ∧
    ∀ json : Json, json.Valid →
      ∃ back, (ofJson json).toJson? = some back ∧ back = json.mapNumbers .normalized ∧
        (ofJson back).toJson? = some back := by
  constructor
  · intro value hclosed hfinite
    rw [containsVariable_eq, Option.isNone_eq_false_iff] at hclosed
    obtain ⟨json, hjson⟩ := Option.isSome_iff_exists.1 hclosed
    exact ⟨json, hjson, equal_ofJson value hjson hfinite⟩
  · intro json hvalid
    have hback := toJson?_ofJson json hvalid
    refine ⟨json.mapNumbers .normalized, hback, rfl, ?_⟩
    have hequal := equal_ofJson _ hback (finiteNumbers_ofJson json hvalid)
    rw [hequal.toJson?_eq, hback]

/-- A negative zero, a fraction and a number from the bound on. -/
def sampleNumbers : ArgValue :=
  .object [("seed", .number (.zero true)),
    ("stop", .list [.number (.ofQuotient false 7 10), .number (.ofNat true (2 ^ 53)), .null])]

/-- Numbers of all three kinds, whole ones and others. -/
def sampleRequest : Json :=
  .object [("max_tokens", .number (.real (.ofNat false 200))),
    ("limits", .array [.number (.natural (2 ^ 64 - 1)), .number (.negative 3),
      .number (.real (.ofQuotient true 7 10)), .string "n"])]

theorem conversion_sampleNumbers :
    (sampleNumbers.containsVariable = false ∧ sampleNumbers.FiniteNumbers ∧
      ∃ json, sampleNumbers.toJson? = some json ∧ Equal (ofJson json) sampleNumbers) ∧
    sampleRequest.Valid ∧
      ∃ back, (ofJson sampleRequest).toJson? = some back ∧
        back = sampleRequest.mapNumbers .normalized ∧ (ofJson back).toJson? = some back := by
  have hzero : (Binary64.zero true).isFinite = true := by decide +kernel
  have hfraction : ∀ negative, (Binary64.ofQuotient negative 7 10).isFinite = true := by
    decide +kernel
  have hclosed : sampleNumbers.containsVariable = false := rfl
  have hfinite : sampleNumbers.FiniteNumbers :=
    ⟨hzero, ⟨hfraction false, Binary64.isFinite_ofNat true (by decide), trivial, trivial⟩, trivial⟩
  have hnatural : (JsonNumber.natural (2 ^ 64 - 1)).Valid := Nat.sub_lt (by decide) (by decide)
  have hnegative : (JsonNumber.negative 3).Valid := ⟨by decide, by decide⟩
  have hvalid : sampleRequest.Valid :=
    ⟨by decide, Binary64.isFinite_ofNat false (by decide),
      ⟨hnatural, hnegative, hfraction true, trivial, trivial⟩, trivial⟩
  exact ⟨⟨hclosed, hfinite, conversion_lossless.1 sampleNumbers hclosed hfinite⟩, hvalid,
    conversion_lossless.2 sampleRequest hvalid⟩

end ArgValue

end CompletionGateway
