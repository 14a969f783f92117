/-
The whole life of a sink.

A sink keeps two things that repeat each other in part: the diagnostics that nobody
has taken out yet, and the number of errors among all that ever came. What is done
with it (`Sink.Request`) differs in size, from one diagnostic to those of many uses,
and taking the diagnostics out empties the first and leaves the second alone. Still
one request keeps both in step with what came: what it hands out and what is held
after it are what was held before it and what it brings (`batch_append_held_serve`),
and the number grows by the errors that it brings (`errorCount_serve`).

By induction both hold of every run. So the batches that were handed out and what is
still held make up the history of the sink, in its order and each diagnostic once;
and every reply can be told from the requests before it (`reply_serve`). Uses can
be analysed together, one by one or in batches, since a batch brings what its uses
bring, and a use that is passed over brings nothing.
-/
import ApiAvailability.Attribute.Binding
import ApiAvailability.Proofs.UseReport
import Mathlib.Data.List.DropRight

set_option autoImplicit false

namespace ApiAvailability

namespace Sink

/-! ## Requests -/

/-- What can be done with a sink: something comes to it, its diagnostics are taken
out, or it is looked at. -/
inductive Request where
  | emit (d : Diagnostic)
  | analyze (s : Settings) (u : UseSite)
  | analyzeAll (s : Settings) (us : List UseSite)
  | takeAll
  | diagnostics
  | length
  | hasErrors
  | errorCount

/-- What comes back. -/
inductive Reply where
  | done
  /-- Diagnostics that are no longer held. -/
  | taken (ds : List Diagnostic)
  /-- Diagnostics that are still held. -/
  | held (ds : List Diagnostic)
  | number (n : Nat)
  | flag (b : Bool)
  deriving DecidableEq

/-- The reply to a request, and the sink after it. -/
def serve (sink : Sink) : Request → Reply × Sink
  | .emit d => (.done, sink.emit d)
  | .analyze s u => (.done, s.analyze u sink)
  | .analyzeAll s us => (.done, s.analyzeAll us sink)
  | .takeAll => (.taken sink.takeAll.1, sink.takeAll.2)
  | .diagnostics => (.held sink.held, sink)
  | .length => (.number sink.held.length, sink)
  | .hasErrors => (.flag sink.hasErrors, sink)
  | .errorCount => (.number sink.errorCount, sink)

/-- The replies to requests in their order, and the sink after them. -/
def serveAll (sink : Sink) : List Request → List Reply × Sink
  | [] => ([], sink)
  | r :: rest =>
    let (reply, next) := sink.serve r
    let (replies, last) := next.serveAll rest
    (reply :: replies, last)

/-! ## The history -/

/-- The diagnostics that come to the sink by a request. -/
def Request.brings : Request → List Diagnostic
  | emit d => [d]
  | analyze s u => s.diagnosticsFor u
  | analyzeAll s us => us.flatMap s.diagnosticsFor
  | takeAll | diagnostics | length | hasErrors | errorCount => []

def Request.isTaking : Request → Bool
  | takeAll => true
  | emit _ | analyze _ _ | analyzeAll _ _ | diagnostics | length | hasErrors | errorCount => false

/-- All diagnostics that came by requests. -/
def came (rs : List Request) : List Diagnostic := rs.flatMap Request.brings

/-- The diagnostics that came since some were last taken out. -/
def pending (rs : List Request) : List Diagnostic := came (rs.rtakeWhile fun r => !r.isTaking)

/-- The number of errors among all diagnostics that came. -/
def errorsIn (rs : List Request) : Nat := (came rs).countP (·.severity = .error)

/-- The reply to a request after others, told from these alone. -/
def Request.replyAfter (earlier : List Request) : Request → Reply
  | emit _ | analyze _ _ | analyzeAll _ _ => .done
  | takeAll => .taken (pending earlier)
  | diagnostics => .held (pending earlier)
  | length => .number (pending earlier).length
  | hasErrors => .flag (0 < errorsIn earlier)
  | errorCount => .number (errorsIn earlier)

/-- The diagnostics that a reply hands out for good. -/
def Reply.batch : Reply → List Diagnostic
  | taken ds => ds
  | done | held _ | number _ | flag _ => []

/-! ## One request -/

/-- **Nothing is lost by a request.** What it hands out and what is held after it are
what was held before it and what it brings. -/
theorem batch_append_held_serve (sink : Sink) (r : Request) :
    (sink.serve r).1.batch ++ (sink.serve r).2.held = sink.held ++ r.brings := by
  cases r with
  | emit d => rfl
  | analyze s u => exact held_emitAll sink (s.diagnosticsFor u)
  | analyzeAll s us => exact held_emitAll sink (s.diagnosticsForAll us)
  | takeAll => rfl
  | diagnostics | length | hasErrors | errorCount => exact (List.append_nil _).symm

/-- The errors that a request brings are counted, also by the one that empties the
sink. -/
theorem errorCount_serve (sink : Sink) (r : Request) :
    (sink.serve r).2.errorCount =
      sink.errorCount + r.brings.countP (·.severity = .error) := by
  cases r with
  | emit d => exact errorCount_emitAll sink [d]
  | analyze s u => exact errorCount_emitAll sink (s.diagnosticsFor u)
  | analyzeAll s us => exact errorCount_emitAll sink (s.diagnosticsForAll us)
  | takeAll | diagnostics | length | hasErrors | errorCount => rfl

/-- A request that takes nothing out adds what it brings. -/
theorem held_serve_of_isTaking_eq_false (sink : Sink) {r : Request} (h : r.isTaking = false) :
    (sink.serve r).2.held = sink.held ++ r.brings := by
  have hstep := sink.batch_append_held_serve r
  have hbatch : (sink.serve r).1.batch = [] := by
    cases r with
    | takeAll => cases h
    | _ => rfl
  rwa [hbatch, List.nil_append] at hstep

/-! ## A run -/

/-- The batches of a run and what is held after it are what was held before it and
what its requests bring. -/
theorem batches_append_held_serveAll (sink : Sink) (rs : List Request) :
    (sink.serveAll rs).1.flatMap Reply.batch ++ (sink.serveAll rs).2.held =
      sink.held ++ came rs := by
  induction rs generalizing sink with
  | nil => exact (List.append_nil _).symm
  | cons r rs ih =>
    have hstep := sink.batch_append_held_serve r
    have hrest := ih (sink.serve r).2
    show ((sink.serve r).1.batch ++ ((sink.serve r).2.serveAll rs).1.flatMap Reply.batch) ++
      ((sink.serve r).2.serveAll rs).2.held = sink.held ++ (r.brings ++ came rs)
    rw [List.append_assoc, hrest, ← List.append_assoc, hstep, List.append_assoc]

theorem errorCount_serveAll (sink : Sink) (rs : List Request) :
    (sink.serveAll rs).2.errorCount = sink.errorCount + errorsIn rs := by
  induction rs generalizing sink with
  | nil => rfl
  | cons r rs ih =>
    have hcount : errorsIn (r :: rs) =
        r.brings.countP (·.severity = .error) + errorsIn rs := by
      rw [errorsIn, came, List.flatMap_cons, List.countP_append]
      rfl
    show ((sink.serve r).2.serveAll rs).2.errorCount = _
    rw [ih, errorCount_serve, hcount, Nat.add_assoc]

/-- One request more is served by the sink that the others left. -/
theorem serveAll_append_singleton (sink : Sink) (rs : List Request) (r : Request) :
    sink.serveAll (rs ++ [r]) =
      ((sink.serveAll rs).1 ++ [((sink.serveAll rs).2.serve r).1],
        ((sink.serveAll rs).2.serve r).2) := by
  induction rs generalizing sink with
  | nil => rfl
  | cons q rs ih =>
    show ((sink.serve q).1 :: ((sink.serve q).2.serveAll (rs ++ [r])).1,
      ((sink.serve q).2.serveAll (rs ++ [r])).2) = _
    rw [ih]
    rfl

/-- **What is held** is what came since diagnostics were last taken out. -/
theorem held_serveAll_empty (rs : List Request) : (empty.serveAll rs).2.held = pending rs := by
  -- From the right: the last request either empties the sink or adds to it.
  induction rs using List.reverseRecOn with
  | nil => rfl
  | append_singleton rs r ih =>
    rw [serveAll_append_singleton, pending]
    cases htaking : r.isTaking with
    | true =>
      rw [List.rtakeWhile_concat_neg _ _ _ (by simp [htaking])]
      cases r with
      | takeAll => rfl
      | _ => cases htaking
    | false =>
      rw [List.rtakeWhile_concat_pos _ _ _ (by simp [htaking]),
        held_serve_of_isTaking_eq_false _ htaking, ih, pending, came, came, List.flatMap_append,
        List.flatMap_singleton]

theorem errorCount_serveAll_empty (rs : List Request) :
    (empty.serveAll rs).2.errorCount = errorsIn rs := by
  rw [errorCount_serveAll]
  exact Nat.zero_add _

/-- **Every reply** is told by the requests before it. -/
theorem reply_serve (rs : List Request) (r : Request) :
    ((empty.serveAll rs).2.serve r).1 = r.replyAfter rs := by
  have hheld := held_serveAll_empty rs
  have hcount := errorCount_serveAll_empty rs
  cases r with
  | emit d | analyze s u | analyzeAll s us => rfl
  | takeAll => exact congrArg Reply.taken hheld
  | diagnostics => exact congrArg Reply.held hheld
  | length => exact congrArg (fun ds => Reply.number ds.length) hheld
  | hasErrors => exact congrArg (fun n => Reply.flag (0 < n)) hcount
  | errorCount => exact congrArg Reply.number hcount

end Sink

/-! ## Uses in batches -/

namespace Settings

theorem analyzeAll_append (s : Settings) (us vs : List UseSite) (sink : Sink) :
    s.analyzeAll (us ++ vs) sink = s.analyzeAll vs (s.analyzeAll us sink) := by
  rw [analyzeAll_eq_foldl, analyzeAll_eq_foldl, analyzeAll_eq_foldl, List.foldl_append]

/-- Batches of uses, one after the other, are their uses together. -/
theorem foldl_analyzeAll (s : Settings) (batches : List (List UseSite)) (sink : Sink) :
    batches.foldl (fun sink us => s.analyzeAll us sink) sink =
      s.analyzeAll batches.flatten sink := by
  induction batches generalizing sink with
  | nil => rfl
  | cons us batches ih => rw [List.foldl_cons, ih, List.flatten_cons, analyzeAll_append]

/-- A use that nobody is interested in, and one around which gathering fails, brings
nothing. -/
theorem diagnosticsFor_eq_nil {s : Settings} {u : UseSite}
    (h : ¬u.operation.isOfInterest ∨ ∃ e, u.collect s.policy = .error e) :
    s.diagnosticsFor u = [] := by
  rcases h with hoperation | ⟨e, he⟩
  · exact if_neg hoperation
  · exact diagnosticsFor_of_gathered?_eq_none (UseSite.gathered?_of_collect_eq_error he)

theorem analyzeAll_skip {s : Settings} {u : UseSite} (h : s.diagnosticsFor u = [])
    (us vs : List UseSite) (sink : Sink) :
    s.analyzeAll (us ++ u :: vs) sink = s.analyzeAll (us ++ vs) sink := by
  have hsame : s.diagnosticsForAll (us ++ u :: vs) = s.diagnosticsForAll (us ++ vs) := by
    simp only [diagnosticsForAll, List.flatMap_append, List.flatMap_cons, h, List.nil_append]
  rw [analyzeAll, analyzeAll, hsame]

end Settings

namespace Sink

/-- **The history of a sink.** After any requests to a new sink, the batches that were
taken out and what is still held are the diagnostics that came, in their order; the
count is that of the errors among all of them, whatever was taken out, and there are
errors exactly if it is not zero; and one more request gets the reply that this history
tells. Uses that are analysed together leave the same sink as uses that are analysed one
by one or in batches. And a use of no interest, or one around which gathering fails,
brings nothing and makes no difference to the others. -/
theorem serveAll_history :
    (∀ rs : List Request,
      (empty.serveAll rs).1.flatMap Reply.batch ++ (empty.serveAll rs).2.held = came rs ∧
      (empty.serveAll rs).2.errorCount = (came rs).countP (·.severity = .error) ∧
      ((empty.serveAll rs).2.hasErrors ↔ 0 < (empty.serveAll rs).2.errorCount) ∧
      ∀ r, (empty.serveAll (rs ++ [r])).1 = (empty.serveAll rs).1 ++ [r.replyAfter rs]) ∧
    (∀ (s : Settings) (us : List UseSite) (sink : Sink),
      s.analyzeAll us sink = us.foldl (fun sink u => s.analyze u sink) sink) ∧
    (∀ (s : Settings) (batches : List (List UseSite)) (sink : Sink),
      s.analyzeAll batches.flatten sink =
        batches.foldl (fun sink us => s.analyzeAll us sink) sink) ∧
    ∀ (s : Settings) (u : UseSite),
      ¬u.operation.isOfInterest ∨ (∃ e, u.collect s.policy = .error e) →
      s.diagnosticsFor u = [] ∧ ∀ (us vs : List UseSite) (sink : Sink),
        s.analyzeAll (us ++ u :: vs) sink = s.analyzeAll (us ++ vs) sink := by
  refine ⟨fun rs => ⟨?_, errorCount_serveAll_empty rs, ?_, fun r => ?_⟩,
    Settings.analyzeAll_eq_foldl, fun s batches sink => (s.foldl_analyzeAll batches sink).symm,
    fun s u h => ?_⟩
  · exact batches_append_held_serveAll empty rs
  · exact decide_eq_true_iff
  · rw [serveAll_append_singleton, reply_serve]
  · have hnothing := Settings.diagnosticsFor_eq_nil h
    exact ⟨hnothing, Settings.analyzeAll_skip hnothing⟩

/-- An error that is taken out before two uses are analysed, of which the first one
fails. -/
theorem serveAll_history_taken :
    let s : Settings := ⟨.iOS, none, .bitwiseOr, [], []⟩
    let use (a : Attribute) : UseSite :=
      ⟨{ Symbol.plain "symbol" .method with attributes := [a] }, .invocation, .read, none⟩
    let typo := use ⟨"ObjCRuntime", "IntroducedAttribute", [.byte 9], []⟩
    let deprecated := use (.single .deprecated .iOS 9 0 .every none)
    let raised := Diagnostic.plain .error ⟨.apple, 1003⟩ "raised"
    let rs : List Request :=
      [.emit raised, .takeAll, .analyzeAll s [typo, deprecated], .hasErrors, .errorCount]
    (∃ e, typo.collect s.policy = .error e) ∧
    (empty.serveAll rs).1 = [.done, .taken [raised], .done, .flag true, .number 1] ∧
    (empty.serveAll rs).1.flatMap Reply.batch ++ (empty.serveAll rs).2.held =
      raised :: s.diagnosticsFor deprecated ∧
    s.analyzeAll ([] ++ typo :: [deprecated]) empty = s.analyzeAll ([] ++ [deprecated]) empty := by
  intro s use typo deprecated raised rs
  have hfails : ∃ e, typo.collect s.policy = .error e :=
    ⟨⟨"symbol", "IntroducedAttribute", 9⟩, by decide⟩
  obtain ⟨hhistory, -, -, hskip⟩ := serveAll_history
  obtain ⟨hnothing, hsame⟩ := hskip s typo (Or.inr hfails)
  have hcame : came rs = raised :: s.diagnosticsFor deprecated := by
    show [raised] ++ ([] ++ ((s.diagnosticsFor typo ++ (s.diagnosticsFor deprecated ++ [])) ++ _)) =
      _
    rw [hnothing]
    rfl
  exact ⟨hfails, by decide, (hhistory rs).1.trans hcame, hsame [] [deprecated] empty⟩

end Sink

end ApiAvailability
