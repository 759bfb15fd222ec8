/-!
# Named entries in order

A dictionary is a list of named entries.  Writing a name that is present replaces its value in
place; a new name goes to the end.  So the names stay in the order in which they first came.
-/

namespace CompletionGateway

/-- Named entries, in the order in which the names first came. -/
abbrev Dict (α : Type) := List (String × α)

namespace Dict

variable {α β : Type}

/-- The names, in order. -/
def names (entries : Dict α) : List String := entries.map Prod.fst

/-- The value under a name. -/
def find? (entries : Dict α) (name : String) : Option α :=
  match entries with
  | [] => none
  | (key, value) :: rest => if key = name then some value else find? rest name

/-- Writes a value under a name. -/
def insert (entries : Dict α) (name : String) (value : α) : Dict α :=
  match entries with
  | [] => [(name, value)]
  | (key, old) :: rest =>
      if key = name then (key, value) :: rest else (key, old) :: insert rest name value

/-- Writes entries one after the other. -/
def insertAll (entries : Dict α) (more : List (String × α)) : Dict α :=
  more.foldl (fun dict entry => dict.insert entry.1 entry.2) entries

/-- The dictionary that results from writing the given entries one after the other. -/
def ofList (entries : List (String × α)) : Dict α := insertAll [] entries

/-- Takes a name out; the last entry moves into the gap. -/
def swapRemove (entries : Dict α) (name : String) : Dict α :=
  match entries with
  | [] => []
  | (key, value) :: rest =>
      if key = name then
        match rest.getLast? with
        | none => []
        | some last => last :: rest.dropLast
      else (key, value) :: swapRemove rest name

@[simp]
theorem find?_nil (name : String) : find? ([] : Dict α) name = none := rfl

theorem find?_insert_self (entries : Dict α) (name : String) (value : α) :
    (entries.insert name value).find? name = some value := by
  induction entries with
  | nil => simp [insert, find?]
  | cons entry rest ih =>
      obtain ⟨key, old⟩ := entry
      by_cases h : key = name <;> simp [insert, find?, h, ih]

theorem find?_insert_of_ne (entries : Dict α) {name other : String} (value : α)
    (h : name ≠ other) : (entries.insert name value).find? other = entries.find? other := by
  induction entries with
  | nil => simp [insert, find?, h]
  | cons entry rest ih =>
      obtain ⟨key, old⟩ := entry
      by_cases hkey : key = name
      · subst hkey
        simp [insert, find?, h]
      · by_cases hother : key = other
        · subst hother
          simp [insert, find?, hkey]
        · simp [insert, find?, hkey, hother, ih]

theorem insert_of_notMem {entries : Dict α} {name : String} (value : α)
    (h : name ∉ entries.names) : entries.insert name value = entries ++ [(name, value)] := by
  induction entries with
  | nil => rfl
  | cons entry rest ih =>
      obtain ⟨key, old⟩ := entry
      simp only [names, List.map_cons, List.mem_cons, not_or] at h
      rw [insert, if_neg (Ne.symm h.1), ih h.2]
      rfl

/-- Writing entries with new and distinct names puts them at the end. -/
theorem insertAll_of_nodup {entries : Dict α} {more : List (String × α)}
    (h : (names (entries ++ more)).Nodup) : entries.insertAll more = entries ++ more := by
  induction more generalizing entries with
  | nil => simp [insertAll]
  | cons entry more ih =>
      have hnew : entry.1 ∉ entries.names := by
        intro hmem
        simp only [names, List.map_append, List.map_cons] at h
        exact (List.nodup_append.1 h).2.2 _ hmem _ (by simp) rfl
      have hassoc : entries ++ entry :: more = entries ++ [entry] ++ more := by simp
      rw [hassoc] at h ⊢
      rw [← ih h, ← insert_of_notMem entry.2 hnew]
      rfl

theorem ofList_of_nodup {entries : List (String × α)} (h : (names entries).Nodup) :
    ofList entries = entries := insertAll_of_nodup (by simpa using h)

theorem names_insert (entries : Dict α) (name : String) (value : α) :
    (entries.insert name value).names =
      if name ∈ entries.names then entries.names else entries.names ++ [name] := by
  induction entries with
  | nil => rfl
  | cons entry rest ih =>
      obtain ⟨key, old⟩ := entry
      unfold names at ih ⊢
      by_cases hkey : key = name
      · subst hkey
        simp [insert]
      · rw [insert, if_neg hkey, List.map_cons, ih]
        simp only [List.map_cons, List.mem_cons, Ne.symm hkey, false_or, List.cons_append]
        split <;> rfl

theorem mem_names_insert {entries : Dict α} {name other : String} {value : α} :
    other ∈ (entries.insert name value).names ↔ other ∈ entries.names ∨ other = name := by
  rw [names_insert]
  split
  · next hmem =>
      constructor
      · exact Or.inl
      · rintro (hother | rfl)
        · exact hother
        · exact hmem
  · rw [List.mem_append, List.mem_singleton]

theorem nodup_names_insert {entries : Dict α} (h : entries.names.Nodup) (name : String)
    (value : α) : (entries.insert name value).names.Nodup := by
  rw [names_insert]
  split
  · exact h
  · next hnew => exact List.nodup_append.2 ⟨h, by simp, by grind⟩

/-- Where a value is written does not depend on the value. -/
theorem exists_insert_eq {entries : Dict α} (h : entries.names.Nodup) (name : String) :
    ∃ before after : Dict α, name ∉ names (before ++ after) ∧
      ∀ value, entries.insert name value = before ++ (name, value) :: after := by
  induction entries with
  | nil => exact ⟨[], [], by simp [names], fun _ => rfl⟩
  | cons entry rest ih =>
      obtain ⟨key, old⟩ := entry
      obtain ⟨hkey, hrest⟩ := List.nodup_cons.1 h
      by_cases hname : key = name
      · subst hname
        exact ⟨[], rest, hkey, fun value => if_pos rfl⟩
      · obtain ⟨before, after, hother, hinsert⟩ := ih hrest
        refine ⟨(key, old) :: before, after, ?_, fun value => ?_⟩
        · simpa [names, Ne.symm hname] using hother
        · rw [insert, if_neg hname, hinsert, List.cons_append]

theorem insertAll_cons (entries : Dict α) (entry : String × α) (more : List (String × α)) :
    entries.insertAll (entry :: more) = (entries.insert entry.1 entry.2).insertAll more := rfl

theorem insertAll_append (entries : Dict α) (front back : List (String × α)) :
    entries.insertAll (front ++ back) = (entries.insertAll front).insertAll back := by
  simp [insertAll]

/-- Writing entries keeps the names that are there and adds each new one where it first comes. -/
theorem names_insertAll (entries : Dict α) (more : List (String × α)) :
    (entries.insertAll more).names =
      entries.names ++ ((names more).removeAll entries.names).eraseDups := by
  induction more generalizing entries with
  | nil => simp [insertAll, names, List.removeAll]
  | cons entry more ih =>
      rw [insertAll_cons, ih, names_insert]
      show _ = entries.names ++ ((entry.1 :: names more).removeAll entries.names).eraseDups
      by_cases hmem : entry.1 ∈ entries.names
      · simp [hmem, List.removeAll]
      · simp [hmem, List.removeAll, List.eraseDups_cons, List.filter_filter, Bool.and_comm]
        rfl

theorem names_ofList (entries : List (String × α)) :
    (ofList entries).names = (names entries).eraseDups := by
  rw [ofList, names_insertAll]
  have hnone : (names entries).removeAll (names ([] : Dict α)) = names entries :=
    List.filter_eq_self.2 fun _ _ => rfl
  rw [hnone]
  rfl

theorem find?_insertAll_of_notMem (entries : Dict α) {more : List (String × α)} {name : String}
    (h : name ∉ names more) : (entries.insertAll more).find? name = entries.find? name := by
  induction more generalizing entries with
  | nil => rfl
  | cons entry more ih =>
      simp only [names, List.map_cons, List.mem_cons, not_or] at h
      rw [insertAll_cons, ih _ h.2, find?_insert_of_ne _ _ (Ne.symm h.1)]

/-- The last value that is written under a name is the one found there. -/
theorem find?_ofList_append_cons (front : List (String × α)) (name : String) (value : α)
    {back : List (String × α)} (h : name ∉ names back) :
    (ofList (front ++ (name, value) :: back)).find? name = some value := by
  rw [ofList, insertAll_append, insertAll_cons, find?_insertAll_of_notMem _ h, find?_insert_self]

theorem find?_map (entries : Dict α) (f : String → α → β) (name : String) :
    Dict.find? (entries.map fun entry => (entry.1, f entry.1 entry.2)) name =
      (entries.find? name).map (f name) := by
  induction entries with
  | nil => rfl
  | cons entry rest ih =>
      obtain ⟨key, value⟩ := entry
      by_cases hkey : key = name
      · subst hkey
        simp [find?]
      · simp [find?, hkey, ih]

/-! ### Lookup by membership -/

theorem find?_eq_none_iff {entries : Dict α} {name : String} :
    entries.find? name = none ↔ name ∉ entries.names := by
  induction entries with
  | nil => simp [names]
  | cons entry rest ih =>
      obtain ⟨key, value⟩ := entry
      unfold names at ih ⊢
      by_cases hkey : key = name
      · simp [find?, hkey]
      · simp [find?, hkey, ih, Ne.symm hkey]

theorem mem_names_of_mem {entries : Dict α} {entry : String × α} (h : entry ∈ entries) :
    entry.1 ∈ entries.names := List.mem_map.2 ⟨entry, h, rfl⟩

theorem mem_of_find?_eq_some {entries : Dict α} {name : String} {value : α}
    (h : entries.find? name = some value) : (name, value) ∈ entries := by
  induction entries with
  | nil => cases h
  | cons entry rest ih =>
      obtain ⟨key, old⟩ := entry
      by_cases hkey : key = name
      · subst hkey
        simp [find?] at h
        simp [h]
      · rw [find?, if_neg hkey] at h
        exact List.mem_cons_of_mem _ (ih h)

/-- The first entry with a name is the one that is found. -/
theorem find?_eq_some_iff_append {entries : Dict α} {name : String} {value : α} :
    entries.find? name = some value ↔
      ∃ front back, entries = front ++ (name, value) :: back ∧ name ∉ names front := by
  induction entries with
  | nil => simp
  | cons entry rest ih =>
      obtain ⟨key, old⟩ := entry
      by_cases hkey : key = name
      · subst hkey
        rw [find?, if_pos rfl, Option.some.injEq]
        constructor
        · rintro rfl
          exact ⟨[], rest, rfl, by simp [names]⟩
        · rintro ⟨front, back, hsplit, hfirst⟩
          cases front with
          | nil => cases hsplit; rfl
          | cons first front => cases hsplit; simp [names] at hfirst
      · rw [find?, if_neg hkey, ih]
        constructor
        · rintro ⟨front, back, rfl, hfirst⟩
          exact ⟨(key, old) :: front, back, rfl, by simpa [names, Ne.symm hkey] using hfirst⟩
        · rintro ⟨front, back, hsplit, hfirst⟩
          cases front with
          | nil => cases hsplit; exact absurd rfl hkey
          | cons first front =>
              cases hsplit
              simp only [names, List.map_cons, List.mem_cons, not_or] at hfirst
              exact ⟨front, back, rfl, hfirst.2⟩

/-- Where no name repeats, the entry under a name is the one that is found. -/
theorem find?_eq_some_iff {entries : Dict α} (h : entries.names.Nodup) {name : String} {value : α} :
    entries.find? name = some value ↔ (name, value) ∈ entries := by
  constructor
  · exact mem_of_find?_eq_some
  · intro hmem
    induction entries with
    | nil => cases hmem
    | cons entry rest ih =>
        obtain ⟨key, old⟩ := entry
        obtain ⟨hkey, hrest⟩ := List.nodup_cons.1 h
        rcases List.mem_cons.1 hmem with heq | htail
        · obtain ⟨rfl, rfl⟩ := Prod.mk.inj heq
          simp [find?]
        · have hne : key ≠ name := by
            rintro rfl
            exact hkey (List.mem_map.2 ⟨(key, value), htail, rfl⟩)
          rw [find?, if_neg hne]
          exact ih hrest htail

/-- Entries with the same names, none of which repeats, and with the same values under them are the
same. -/
theorem ext_of_names {entries entries' : Dict α} (hnodup : entries.names.Nodup)
    (hnames : entries.names = entries'.names)
    (h : ∀ name ∈ entries.names, entries.find? name = entries'.find? name) :
    entries = entries' := by
  induction entries generalizing entries' with
  | nil =>
      rw [names, List.map_nil] at hnames
      exact (List.map_eq_nil_iff.1 hnames.symm).symm
  | cons entry rest ih =>
      obtain ⟨key, value⟩ := entry
      obtain ⟨⟨key', value'⟩, rest', rfl⟩ : ∃ entry' rest', entries' = entry' :: rest' := by
        cases entries' with
        | nil => cases hnames
        | cons entry' rest' => exact ⟨entry', rest', rfl⟩
      obtain ⟨rfl, hrest⟩ := List.cons.inj hnames
      obtain ⟨hkey, hnodup⟩ := List.nodup_cons.1 hnodup
      have hvalue := h key List.mem_cons_self
      simp only [find?, if_true, Option.some.injEq] at hvalue
      subst hvalue
      congr 1
      refine ih hnodup hrest fun name hname => ?_
      have hne : key ≠ name := fun heq => hkey (heq ▸ hname)
      simpa [find?, hne] using h name (List.mem_cons_of_mem _ hname)

/-! ### Taking a name out -/

/-- Apart from their order, the other entries are what they were. -/
theorem swapRemove_perm {entries : Dict α} (h : entries.names.Nodup) (name : String) :
    (entries.swapRemove name).Perm (entries.filter fun entry => entry.1 ≠ name) := by
  induction entries with
  | nil => exact .nil
  | cons entry rest ih =>
      obtain ⟨key, value⟩ := entry
      obtain ⟨hkey, hrest⟩ := List.nodup_cons.1 h
      by_cases hname : key = name
      · subst hname
        have hothers : rest.filter (fun entry => entry.1 ≠ key) = rest := by
          refine List.filter_eq_self.2 fun other hother => ?_
          rw [decide_eq_true_eq]
          intro hsame
          have hagain : other.1 ∈ names rest := mem_names_of_mem hother
          rw [hsame] at hagain
          exact hkey hagain
        rw [List.filter_cons_of_neg (by simp), hothers]
        cases hlast : rest.getLast? with
        | none =>
            rw [List.getLast?_eq_none_iff] at hlast
            simp [swapRemove, hlast]
        | some last =>
            obtain ⟨front, rfl⟩ := List.getLast?_eq_some_iff.1 hlast
            simp only [swapRemove, if_true, hlast, List.dropLast_concat]
            exact (List.perm_append_singleton last front).symm
      · rw [swapRemove, if_neg hname, List.filter_cons_of_pos (by simpa using hname)]
        exact (ih hrest).cons _

theorem mem_swapRemove {entries : Dict α} (h : entries.names.Nodup) {name : String}
    {entry : String × α} :
    entry ∈ entries.swapRemove name ↔ entry ∈ entries ∧ entry.1 ≠ name := by
  rw [(swapRemove_perm h name).mem_iff, List.mem_filter, decide_eq_true_eq]

theorem nodup_names_swapRemove {entries : Dict α} (h : entries.names.Nodup) (name : String) :
    (entries.swapRemove name).names.Nodup := by
  have hperm := (swapRemove_perm h name).map Prod.fst
  refine hperm.nodup_iff.2 (h.sublist ?_)
  exact List.Sublist.map _ List.filter_sublist

theorem mem_names_swapRemove {entries : Dict α} (h : entries.names.Nodup) {name other : String} :
    other ∈ (entries.swapRemove name).names ↔ other ≠ name ∧ other ∈ entries.names := by
  constructor
  · intro hmem
    obtain ⟨entry, hentry, rfl⟩ := List.mem_map.1 hmem
    obtain ⟨hold, hne⟩ := (mem_swapRemove h).1 hentry
    exact ⟨hne, mem_names_of_mem hold⟩
  · rintro ⟨hne, hmem⟩
    obtain ⟨entry, hentry, rfl⟩ := List.mem_map.1 hmem
    exact mem_names_of_mem ((mem_swapRemove h).2 ⟨hentry, hne⟩)

theorem find?_swapRemove_of_ne {entries : Dict α} (h : entries.names.Nodup) {name other : String}
    (hne : other ≠ name) : (entries.swapRemove name).find? other = entries.find? other := by
  apply Option.ext
  intro value
  rw [find?_eq_some_iff (nodup_names_swapRemove h name), find?_eq_some_iff h, mem_swapRemove h]
  exact and_iff_left hne

/-! ### Layers -/

theorem mem_names_insertAll {entries : Dict α} {more : List (String × α)} {name : String} :
    name ∈ (entries.insertAll more).names ↔ name ∈ entries.names ∨ name ∈ names more := by
  rw [names_insertAll, List.mem_append, List.mem_eraseDups, List.removeAll]
  by_cases hmem : name ∈ entries.names <;> simp [hmem]

theorem nodup_names_insertAll {entries : Dict α} (h : entries.names.Nodup)
    (more : List (String × α)) : (entries.insertAll more).names.Nodup := by
  induction more generalizing entries with
  | nil => exact h
  | cons entry more ih => exact ih (nodup_names_insert h entry.1 entry.2)

theorem nodup_eraseDups (list : List String) : list.eraseDups.Nodup := by
  have hnames : names (list.map fun name => (name, ())) = list := by
    simp [names, Function.comp_def]
  have hnodup : (names ([] : Dict Unit)).Nodup := List.nodup_nil
  rw [← hnames, ← names_ofList]
  exact nodup_names_insertAll hnodup _

/-- What is written on top counts where it has a value of its own. -/
theorem find?_insertAll (entries : Dict α) {more : Dict α} (h : more.names.Nodup) (name : String) :
    (entries.insertAll more).find? name = (more.find? name).or (entries.find? name) := by
  induction more generalizing entries with
  | nil => rfl
  | cons entry more ih =>
      obtain ⟨key, value⟩ := entry
      obtain ⟨hkey, hmore⟩ := List.nodup_cons.1 h
      rw [insertAll_cons, ih _ hmore]
      by_cases hname : key = name
      · subst hname
        have hnone : find? more key = none := find?_eq_none_iff.2 hkey
        rw [find?_insert_self, hnone, find?, if_pos rfl]
        rfl
      · rw [find?_insert_of_ne _ _ hname, find?, if_neg hname]

end Dict

end CompletionGateway
