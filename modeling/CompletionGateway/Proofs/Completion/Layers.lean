import Mathlib.Tactic.ByContra
import Mathlib.Tactic.Tauto
import CompletionGateway.Proofs.Completion.Paths

/-!
# The layers of a request body

What the caller gives comes in two layers, the members of the `input` argument and over them the
other arguments, and both are laid over the defaults.  The layers treat `null` differently: among
what the caller gives it is a value like any other, but it does not hide a default.  Whether the
answer is to be a stream is decided by the gateway, whatever the caller says.
-/

namespace CompletionGateway.Completion

/-- The members of the `input` argument. -/
def inputMembers (arguments : Json.Object) : Json.Object :=
  match Dict.find? arguments inputName with
  | some (.object members) => members
  | _ => []

/-- The caller gives an `input` that has no members: neither an object nor `null`. -/
def MisgivesInput (arguments : Json.Object) : Prop :=
  ∃ value, Dict.find? arguments inputName = some value ∧ value ≠ .null ∧
    ∀ members, value ≠ .object members

/-- The direct arguments are laid over the members of the `input` argument. -/
structure Gives (arguments input : Json.Object) : Prop where
  nodup : (Dict.names input).Nodup
  names : ∀ name, name ∈ Dict.names input ↔
    (name ≠ inputName ∧ name ∈ Dict.names arguments) ∨ name ∈ Dict.names (inputMembers arguments)
  values : ∀ name, Dict.find? input name =
    if name ≠ inputName ∧ name ∈ Dict.names arguments then Dict.find? arguments name
    else Dict.find? (inputMembers arguments) name

/-- What the caller gives is laid over the defaults. -/
structure Fills (kind : CompletionKind) (input : Json.Object) (stream : Bool)
    (body : Json.Object) : Prop where
  nodup : (Dict.names body).Nodup
  names : ∀ name, name ∈ Dict.names body ↔
    name ∈ ["model", "max_tokens", "temperature", "top_p", "stream"] ∨ name ∈ Dict.names input
  stream : Dict.find? body "stream" = some (.bool stream)
  given : ∀ name standard, Dict.find? (defaults kind) name = some standard →
    ∀ value, Dict.find? input name = some value → value ≠ .null →
      Dict.find? body name = some value
  standard : ∀ name standard, Dict.find? (defaults kind) name = some standard →
    (Dict.find? input name = none ∨ Dict.find? input name = some .null) →
      Dict.find? body name = some standard
  others : ∀ name, name ∉ ["model", "max_tokens", "temperature", "top_p", "stream"] →
    Dict.find? body name = Dict.find? input name

/-! ### What the caller gives -/

section Given

variable {arguments input : Json.Object}

theorem inputOf_of_misgivesInput (h : MisgivesInput arguments) :
    ∃ fault, inputOf arguments = .error fault := by
  obtain ⟨value, hfound, hnull, hobject⟩ := h
  unfold inputOf
  rw [hfound]
  cases value with
  | null => exact absurd rfl hnull
  | object members => exact absurd rfl (hobject members)
  | _ => exact ⟨_, rfl⟩

/-- Any other arguments give an input: what is direct over the members of `input`. -/
theorem inputOf_of_not_misgivesInput (h : ¬ MisgivesInput arguments) :
    inputOf arguments =
      .ok (Dict.insertAll (inputMembers arguments) (Dict.swapRemove arguments inputName)) := by
  unfold inputOf inputMembers
  cases hfound : Dict.find? arguments inputName with
  | none => rfl
  | some value =>
      cases value with
      | null => rfl
      | object members => rfl
      | bool => exact absurd ⟨_, hfound, by simp, by simp⟩ h
      | number => exact absurd ⟨_, hfound, by simp, by simp⟩ h
      | string => exact absurd ⟨_, hfound, by simp, by simp⟩ h
      | array => exact absurd ⟨_, hfound, by simp, by simp⟩ h

theorem exists_fault_inputOf_iff :
    (∃ fault, inputOf arguments = .error fault) ↔ MisgivesInput arguments := by
  constructor
  · rintro ⟨fault, hfault⟩
    by_contra hgiven
    rw [inputOf_of_not_misgivesInput hgiven] at hfault
    cases hfault
  · exact inputOf_of_misgivesInput

theorem gives_inputOf (harguments : (Dict.names arguments).Nodup)
    (hmembers : (Dict.names (inputMembers arguments)).Nodup)
    (h : inputOf arguments = .ok input) : Gives arguments input := by
  have hgiven : ¬ MisgivesInput arguments := by
    intro hmisgives
    obtain ⟨fault, hfault⟩ := inputOf_of_misgivesInput hmisgives
    rw [hfault] at h
    cases h
  rw [inputOf_of_not_misgivesInput hgiven] at h
  obtain rfl := Except.ok.inj h
  refine ⟨Dict.nodup_names_insertAll hmembers _, fun name => ?_, fun name => ?_⟩
  · rw [Dict.mem_names_insertAll, Dict.mem_names_swapRemove harguments, or_comm]
  · rw [Dict.find?_insertAll _ (Dict.nodup_names_swapRemove harguments inputName)]
    split
    · next hdirect =>
        obtain ⟨hname, hmem⟩ := hdirect
        rw [Dict.find?_swapRemove_of_ne harguments hname]
        cases hvalue : Dict.find? arguments name with
        | none => exact absurd hmem (Dict.find?_eq_none_iff.1 hvalue)
        | some value => rfl
    · next hother =>
        rw [← Dict.mem_names_swapRemove harguments] at hother
        rw [Dict.find?_eq_none_iff.2 hother]
        rfl

end Given

/-! ### What is laid over the defaults -/

section Filled

variable {body input : Json.Object}

theorem mem_names_overlay {member : String × Json} {name : String} :
    name ∈ Dict.names (overlay body member) ↔ name ∈ Dict.names body ∨ name = member.1 := by
  unfold overlay
  split
  · next hkept =>
      have hpresent : member.1 ∈ Dict.names body := by
        by_contra hnew
        rw [Dict.find?_eq_none_iff.2 hnew] at hkept
        simp at hkept
      constructor
      · exact Or.inl
      · rintro (hmem | rfl)
        · exact hmem
        · exact hpresent
  · exact Dict.mem_names_insert

theorem mem_names_foldl_overlay {name : String} :
    name ∈ Dict.names (input.foldl overlay body) ↔
      name ∈ Dict.names body ∨ name ∈ Dict.names input := by
  induction input generalizing body with
  | nil => simp [Dict.names]
  | cons member rest ih =>
      rw [List.foldl_cons, ih, mem_names_overlay, or_assoc]
      simp [Dict.names]

theorem find?_overlay_of_ne {name key : String} (value : Json) (h : key ≠ name) :
    Dict.find? (overlay body (key, value)) name = Dict.find? body name := by
  unfold overlay
  split
  · rfl
  · exact Dict.find?_insert_of_ne _ _ h

theorem find?_overlay_self (key : String) (value : Json) :
    Dict.find? (overlay body (key, value)) key =
      if value.isNull && (Dict.find? body key).isSome then Dict.find? body key
      else some value := by
  unfold overlay
  split
  · rfl
  · exact Dict.find?_insert_self _ _ _

/-- A member of the input counts, unless it is `null` and hides something. -/
theorem find?_foldl_overlay (h : (Dict.names input).Nodup) (name : String) :
    Dict.find? (input.foldl overlay body) name =
      match Dict.find? input name with
      | none => Dict.find? body name
      | some value =>
          if value.isNull && (Dict.find? body name).isSome then Dict.find? body name
          else some value := by
  induction input generalizing body with
  | nil => rfl
  | cons member rest ih =>
      obtain ⟨key, value⟩ := member
      obtain ⟨hkey, hrest⟩ := List.nodup_cons.1 h
      rw [List.foldl_cons, ih hrest]
      by_cases hname : key = name
      · subst hname
        have hnone : Dict.find? rest key = none := Dict.find?_eq_none_iff.2 hkey
        rw [hnone, Dict.find?, if_pos rfl]
        exact find?_overlay_self key value
      · rw [find?_overlay_of_ne value hname, Dict.find?, if_neg hname]

theorem names_defaults (kind : CompletionKind) :
    Dict.names (defaults kind) = ["model", "max_tokens", "temperature", "top_p"] := rfl

/-- The body is what results from laying the input over the defaults and setting `stream`. -/
theorem fills_of_nodup (kind : CompletionKind) (hinput : (Dict.names input).Nodup) (stream : Bool) :
    Fills kind input stream
      (Dict.insert (input.foldl overlay (defaults kind)) "stream" (.bool stream)) := by
  have hnotStream : ∀ name standard, Dict.find? (defaults kind) name = some standard →
      "stream" ≠ name := by
    rintro name standard hdefault rfl
    have hmem := Dict.mem_names_of_mem (Dict.mem_of_find?_eq_some hdefault)
    rw [names_defaults] at hmem
    simp at hmem
  constructor
  case nodup => exact Dict.nodup_names_insert (nodup_names_foldl_overlay kind input) _ _
  case names =>
    intro name
    rw [Dict.mem_names_insert, mem_names_foldl_overlay, names_defaults]
    simp only [List.mem_cons, List.not_mem_nil, or_false]
    tauto
  case stream => exact Dict.find?_insert_self _ _ _
  case given =>
    intro name standard hdefault value hvalue hnull
    rw [Dict.find?_insert_of_ne _ _ (hnotStream name standard hdefault),
      find?_foldl_overlay hinput, hvalue]
    cases value with
    | null => exact absurd rfl hnull
    | _ => rfl
  case standard =>
    intro name standard hdefault hvalue
    rw [Dict.find?_insert_of_ne _ _ (hnotStream name standard hdefault),
      find?_foldl_overlay hinput]
    rcases hvalue with hvalue | hvalue
    · rw [hvalue]
      exact hdefault
    · rw [hvalue, hdefault]
      rfl
  case others =>
    intro name hname
    have hnone : Dict.find? (defaults kind) name = none := by
      rw [Dict.find?_eq_none_iff, names_defaults]
      intro hmem
      exact hname (List.mem_append_left ["stream"] hmem)
    have hne : "stream" ≠ name := by
      rintro rfl
      simp at hname
    rw [Dict.find?_insert_of_ne _ _ hne, find?_foldl_overlay hinput, hnone]
    cases Dict.find? input name <;> simp

theorem exists_fault_requestBody_iff (kind : CompletionKind) (stream : Bool) :
    (∃ fault, requestBody kind input stream = .error fault) ↔ ¬ kind.Completes input := by
  rcases kind.missingInput?_cases input with ⟨hcompletes, hmissing⟩ | ⟨hmisses, message, hmissing⟩
  · constructor
    · rintro ⟨fault, hfault⟩
      simp only [requestBody, hmissing] at hfault
      cases hfault
    · intro hnot
      exact absurd hcompletes hnot
  · constructor
    · intro _
      exact hmisses
    · intro _
      exact ⟨_, requestBody_of_missing hmissing stream⟩

theorem fills_requestBody {kind : CompletionKind} (hinput : (Dict.names input).Nodup)
    {stream : Bool} {result : Json} (h : requestBody kind input stream = .ok result) :
    ∃ members, result = .object members ∧ Fills kind input stream members := by
  unfold requestBody at h
  split at h
  · cases h
  · obtain rfl := Except.ok.inj h
    exact ⟨_, rfl, fills_of_nodup kind hinput stream⟩

end Filled

/-- The arguments give an input unless their `input` is no object, and in it direct arguments hide
the members of `input`.  The input has a body unless the one thing that is needed is missing, and in
it what the caller gives hides the defaults unless it is `null`. -/
theorem requestBody_layers (arguments : Json.Object) (harguments : (Dict.names arguments).Nodup)
    (hmembers : (Dict.names (inputMembers arguments)).Nodup) (kind : CompletionKind)
    (stream : Bool) :
    ((∃ fault, inputOf arguments = .error fault) ↔ MisgivesInput arguments) ∧
      ∀ input, inputOf arguments = .ok input → Gives arguments input ∧
        ((∃ fault, requestBody kind input stream = .error fault) ↔ ¬ kind.Completes input) ∧
          ∀ body, requestBody kind input stream = .ok body →
            ∃ members, body = .object members ∧ Fills kind input stream members := by
  refine ⟨exists_fault_inputOf_iff, fun input hinput => ?_⟩
  have hgives := gives_inputOf harguments hmembers hinput
  refine ⟨hgives, exists_fault_requestBody_iff kind stream, fun body hbody => ?_⟩
  exact fills_requestBody hgives.nodup hbody

/-- Arguments with a member on both levels, a `null`, and a member for the gateway to decide. -/
def sampleArguments : Json.Object :=
  [("temperature", .null), ("model", .string "outer"),
    ("input", .object [("model", .string "inner"), ("prompt", .string "p"), ("stop", .null),
      ("stream", .bool true)])]

theorem requestBody_sampleArguments :
    ∃ input members, inputOf sampleArguments = .ok input ∧
      requestBody .text input false = .ok (.object members) ∧
        Dict.find? members "model" = some (.string "outer") ∧
          Dict.find? members "temperature" = some (.number (.real sevenTenths)) ∧
            Dict.find? members "stop" = some .null ∧
              Dict.find? members "stream" = some (.bool false) := by
  have hnodup : (Dict.names sampleArguments).Nodup := by decide
  have hmembers : (Dict.names (inputMembers sampleArguments)).Nodup := by decide
  obtain ⟨-, hlayers⟩ := requestBody_layers sampleArguments hnodup hmembers .text false
  obtain ⟨hgives, -, hbodies⟩ := hlayers _ rfl
  obtain ⟨_, hobject, hfills⟩ := hbodies _ rfl
  obtain rfl := Json.object.inj hobject
  refine ⟨_, _, rfl, rfl, ?_, ?_, ?_, hfills.stream⟩
  · exact hfills.given "model" _ rfl _ (hgives.values "model") (by simp)
  · exact hfills.standard "temperature" _ rfl (.inr (hgives.values "temperature"))
  · rw [hfills.others "stop" (by decide)]
    exact hgives.values "stop"

end CompletionGateway.Completion
