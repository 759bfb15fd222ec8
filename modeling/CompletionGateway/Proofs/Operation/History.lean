import CompletionGateway.Proofs.Operation.Meets

/-!
# The history of the recorded errors

While a rule reads, errors are recorded one after the other, and when a malformed literal is emptied
those that were recorded inside of it are forgotten.  The history lists all of them in the order in
which they were recorded and tells which were forgotten.  It follows the structure of the rules, and
what a rule leaves behind agrees with it: the errors that were not forgotten are recorded in the state,
in this order, and each of the others is told by an event.  So a rule that changes neither the errors
nor these events was silent, and no rule has two histories from one state.
-/

namespace CompletionGateway

/-- Whether the diagnostic says what is wrong, other than the one for a failure that nothing
explains. -/
def Diagnostic.Explains (error : Diagnostic) : Prop :=
  ∀ found, error.cause ≠ .unexpectedToken [] found

/-- The error for which a literal was emptied. -/
def ReadingEvent.reason? : ReadingEvent → Option Diagnostic
  | literalEmptied _ reason => some reason
  | operationRead _ _ => none

/-- A recorded error, and whether it was forgotten. -/
structure HistoryEntry where
  error : Diagnostic
  forgotten : Bool
deriving DecidableEq

/-- The same error, forgotten. -/
def HistoryEntry.forget (entry : HistoryEntry) : HistoryEntry := { entry with forgotten := true }

namespace Reading

/-- The errors that were forgotten. -/
def forgotten (s : Reading) : List Diagnostic := s.events.filterMap (·.reason?)

/-- From one state to another no error has been recorded or forgotten. -/
structure KeepsErrors (s s' : Reading) : Prop where
  errors : s'.errors = s.errors
  forgotten : s'.forgotten = s.forgotten

/-- The errors that are discarded are forgotten. -/
theorem forgotten_discard (s : Reading) (start : Position) (groups errors : Nat) :
    (s.discard start groups errors).forgotten = s.forgotten ++ s.errors.drop errors := by
  rw [forgotten, discard, List.filterMap_append, List.filterMap_map]
  exact congrArg (s.forgotten ++ ·) List.filterMap_some

namespace KeepsErrors

variable {s s' s'' : Reading}

theorem refl (s : Reading) : s.KeepsErrors s := ⟨rfl, rfl⟩

theorem trans (h : s.KeepsErrors s') (h' : s'.KeepsErrors s'') : s.KeepsErrors s'' :=
  ⟨h'.errors.trans h.errors, h'.forgotten.trans h.forgotten⟩

theorem advance (s : Reading) : s.KeepsErrors s.advance := by
  unfold Reading.advance
  split
  · exact refl s
  · exact ⟨rfl, rfl⟩

theorem push (s : Reading) (enclosure : Enclosure) (span : Span) :
    s.KeepsErrors (s.push enclosure span) := ⟨rfl, rfl⟩

theorem pop (s : Reading) : s.KeepsErrors s.pop := ⟨rfl, rfl⟩

theorem observe (s : Reading) (type : OperationType) (fieldCount : Nat) :
    s.KeepsErrors (s.observe (.operationRead type fieldCount)) := by
  refine ⟨rfl, ?_⟩
  simp [Reading.forgotten, Reading.observe, ReadingEvent.reason?]

end KeepsErrors

/-- Some errors have been recorded from one state to another, of which those were forgotten that came
first. -/
structure Logs (s : Reading) (log : List HistoryEntry) (dropped kept : List Diagnostic)
    (s' : Reading) : Prop where
  log : log = dropped.map (⟨·, true⟩) ++ kept.map (⟨·, false⟩)
  errors : s'.errors = s.errors ++ kept
  forgotten : s'.forgotten = s.forgotten ++ dropped

namespace Logs

variable {s s' s'' : Reading} {log log' : List HistoryEntry}
variable {dropped dropped' kept kept' : List Diagnostic}

theorem of_keepsErrors (h : s.KeepsErrors s') : s.Logs [] [] [] s' :=
  ⟨rfl, by rw [h.errors, List.append_nil], by rw [h.forgotten, List.append_nil]⟩

/-- As long as all errors were forgotten, the history goes on. -/
theorem append (h : s.Logs log dropped [] s') (h' : s'.Logs log' dropped' kept s'') :
    s.Logs (log ++ log') (dropped ++ dropped') kept s'' := by
  constructor
  · rw [h.log, h'.log]
    simp
  · rw [h'.errors, h.errors, List.append_nil]
  · rw [h'.forgotten, h.forgotten, List.append_assoc]

/-- The states tell what was forgotten and what was not, and so the history. -/
theorem unique (h : s.Logs log dropped kept s') (h' : s.Logs log' dropped' kept' s') :
    log = log' := by
  have hkept : kept = kept' := List.append_cancel_left (h.errors.symm.trans h'.errors)
  have hdropped : dropped = dropped' :=
    List.append_cancel_left (h.forgotten.symm.trans h'.forgotten)
  rw [h.log, h'.log, hkept, hdropped]

end Logs

end Reading

namespace Rule

variable {α β : Type}

/-- The rule fails with one more error, which says what is wrong. -/
structure Refuses (rule : Rule α) (s : Reading) (error : Diagnostic) (s' : Reading) : Prop where
  failed : rule s = .failed s'
  errors : s'.errors = s.errors ++ [error]
  forgotten : s'.forgotten = s.forgotten
  explains : error.Explains

/-- The errors that a rule records from a state, in order.  If the body of a literal fails and the
rest of the literal can be passed, then all of its errors are forgotten. -/
inductive History : {α : Type} → Rule α → Reading → List HistoryEntry → Prop
  | silent {α : Type} {rule : Rule α} {s s' : Reading} {value : α} (hdone : rule s = .done value s')
      (hkeeps : s.KeepsErrors s') : History rule s []
  | refused {α : Type} {rule : Rule α} {s s' : Reading} {error : Diagnostic}
      (hrefuses : rule.Refuses s error s') : History rule s [⟨error, false⟩]
  | unfolded {α : Type} {rule rule' : Rule α} {s : Reading} {log : List HistoryEntry}
      (heq : rule s = rule' s) (hrule : History rule' s log) : History rule s log
  | bindDone {α β : Type} {first : Rule α} {second : α → Rule β} {s s' : Reading} {value : α}
      {log log' : List HistoryEntry} (hdone : first s = .done value s') (hfirst : History first s log)
      (hsecond : History (second value) s' log') : History (first >>= second) s (log ++ log')
  | bindFailed {α β : Type} {first : Rule α} {second : α → Rule β} {s s' : Reading}
      {log : List HistoryEntry} (hfailed : first s = .failed s') (hfirst : History first s log) :
      History (first >>= second) s log
  | nested {α : Type} {rule : Rule α} {s : Reading} {log : List HistoryEntry}
      (hroom : s.depth < deepestValue) (hrule : History rule { s with depth := s.depth + 1 } log) :
      History (nested rule) s log
  | literalRead {kind : LiteralKind} {body : Rule ArgValue} {s s' : Reading} {value : ArgValue}
      {log : List HistoryEntry} (hdone : body s = .done value s') (hbody : History body s log) :
      History (literal kind body) s log
  | literalFatal {kind : LiteralKind} {body : Rule ArgValue} {s s' : Reading}
      {log : List HistoryEntry} (hfailed : body s = .failed s')
      (hfatal : (s'.errors.drop s.errors.length).any (·.cause.isFatal) = true)
      (hbody : History body s log) : History (literal kind body) s log
  | literalUnclosed {kind : LiteralKind} {body : Rule ArgValue} {s s' s'' : Reading}
      {error : Diagnostic} {log : List HistoryEntry} (hfailed : body s = .failed s')
      (hmild : (s'.errors.drop s.errors.length).any (·.cause.isFatal) = false)
      (hskip : (skipClosers (s'.opened.length - s.opened.length) s'.unread).Refuses s' error s'')
      (hbody : History body s log) : History (literal kind body) s (log ++ [⟨error, false⟩])
  | literalEmptied {kind : LiteralKind} {body : Rule ArgValue} {s s' s'' : Reading}
      {log : List HistoryEntry} (hfailed : body s = .failed s')
      (hmild : (s'.errors.drop s.errors.length).any (·.cause.isFatal) = false)
      (hskip : skipClosers (s'.opened.length - s.opened.length) s'.unread s' = .done () s'')
      (hkeeps : s'.KeepsErrors s'') (hbody : History body s log) :
      History (literal kind body) s (log.map (·.forget))

/-- What a rule leaves behind agrees with its history: if it is done then all errors were forgotten,
and if it fails then not all of them were. -/
theorem History.meets {rule : Rule α} {s : Reading} {log : List HistoryEntry}
    (h : History rule s log) :
    rule.Meets s (fun _ s' => ∃ dropped, s.Logs log dropped [] s')
      fun s' => ∃ dropped kept, s.Logs log dropped kept s' ∧ kept ≠ [] := by
  induction h with
  | silent hdone hkeeps =>
      rw [Meets, hdone]
      exact ⟨[], .of_keepsErrors hkeeps⟩
  | refused hrefuses =>
      rw [Meets, hrefuses.failed]
      exact ⟨[], [_], ⟨rfl, hrefuses.errors, by rw [hrefuses.forgotten, List.append_nil]⟩, by simp⟩
  | unfolded heq _ ih => exact .congr heq ih
  | bindDone hdone _ _ ih ih' =>
      obtain ⟨dropped, hlogs⟩ := ih.of_done hdone
      rw [Meets, bind_of_done hdone]
      refine ih'.mono ?_ ?_
      · rintro value s' ⟨more, hmore⟩
        exact ⟨dropped ++ more, hlogs.append hmore⟩
      · rintro s' ⟨more, kept, hmore, hne⟩
        exact ⟨dropped ++ more, kept, hlogs.append hmore, hne⟩
  | bindFailed hfailed _ ih =>
      rw [Meets, bind_of_failed hfailed]
      exact ih.of_failed hfailed
  | @nested _ rule s _ hroom _ ih =>
      rw [Meets, Rule.nested, if_pos hroom]
      cases hrule : rule { s with depth := s.depth + 1 } with
      | done value s' =>
          obtain ⟨dropped, hlogs⟩ := ih.of_done hrule
          exact ⟨dropped, hlogs.log, hlogs.errors, hlogs.forgotten⟩
      | failed s' =>
          obtain ⟨dropped, kept, hlogs, hne⟩ := ih.of_failed hrule
          exact ⟨dropped, kept, ⟨hlogs.log, hlogs.errors, hlogs.forgotten⟩, hne⟩
  | literalRead hdone _ ih =>
      rw [Meets, literal_of_done hdone]
      exact ih.of_done hdone
  | literalFatal hfailed hfatal _ ih =>
      rw [Meets, literal_of_fatal hfailed hfatal]
      exact ih.of_failed hfailed
  | @literalUnclosed _ _ _ _ _ error _ hfailed hmild hskip _ ih =>
      obtain ⟨dropped, kept, hlogs, hne⟩ := ih.of_failed hfailed
      rw [Meets, literal_of_unclosed hfailed hmild hskip.failed]
      refine ⟨dropped, kept ++ [error], ⟨?_, ?_, ?_⟩, by simp⟩
      · rw [hlogs.log]
        simp
      · rw [hskip.errors, hlogs.errors, List.append_assoc]
      · rw [hskip.forgotten, hlogs.forgotten]
  | literalEmptied hfailed hmild hskip hkeeps _ ih =>
      obtain ⟨dropped, kept, hlogs, -⟩ := ih.of_failed hfailed
      have herrors := hkeeps.errors.trans hlogs.errors
      rw [Meets, literal_of_closed hfailed hmild hskip]
      refine ⟨dropped ++ kept, ?_, ?_, ?_⟩
      · rw [hlogs.log]
        simp [HistoryEntry.forget, Function.comp_def]
      · rw [Reading.errors_discard herrors, List.append_nil]
      · rw [Reading.forgotten_discard, herrors, List.drop_left, hkeeps.forgotten, hlogs.forgotten,
          List.append_assoc]

/-- A rule has at most one history from a state. -/
theorem History.unique {rule : Rule α} {s : Reading} {log log' : List HistoryEntry}
    (h : History rule s log) (h' : History rule s log') : log = log' := by
  cases hrule : rule s with
  | done value s' =>
      obtain ⟨dropped, hlogs⟩ := h.meets.of_done hrule
      obtain ⟨dropped', hlogs'⟩ := h'.meets.of_done hrule
      exact hlogs.unique hlogs'
  | failed s' =>
      obtain ⟨dropped, kept, hlogs, -⟩ := h.meets.of_failed hrule
      obtain ⟨dropped', kept', hlogs', -⟩ := h'.meets.of_failed hrule
      exact hlogs.unique hlogs'

/-- Every recorded error says what is wrong. -/
theorem History.explains {rule : Rule α} {s : Reading} {log : List HistoryEntry}
    (h : History rule s log) : ∀ entry ∈ log, entry.error.Explains := by
  induction h with
  | silent _ _ => simp
  | refused hrefuses =>
      intro entry hentry
      rw [List.mem_singleton.1 hentry]
      exact hrefuses.explains
  | unfolded _ _ ih | bindFailed _ _ ih | nested _ _ ih | literalRead _ _ ih
  | literalFatal _ _ _ ih => exact ih
  | bindDone _ _ _ ih ih' =>
      intro entry hentry
      exact (List.mem_append.1 hentry).elim (ih entry) (ih' entry)
  | literalUnclosed _ _ hskip _ ih =>
      intro entry hentry
      rcases List.mem_append.1 hentry with hentry | hentry
      · exact ih entry hentry
      · rw [List.mem_singleton.1 hentry]
        exact hskip.explains
  | literalEmptied _ _ _ _ _ ih =>
      intro entry hentry
      obtain ⟨before, hbefore, rfl⟩ := List.mem_map.1 hentry
      exact ih before hbefore

end Rule

end CompletionGateway
