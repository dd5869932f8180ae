import LayoutSpec.Action.Execution
import LayoutSpec.Proofs.Validation.Ordered

/-!
What an action comes to in a browser. It asks the browser for some calls, and a check passes its
specs one after another, up to the first one that cannot be read. An action comes to nothing only if
it comes to a pass without end.
-/

namespace LayoutSpec

namespace Browser

def answer (b : Browser) : Call → Browser
  | .openPage url => (b.openPage url).2
  | .resize size => b.resize size
  | call => b.record call

def replay (b : Browser) (calls : List Call) : Browser :=
  calls.foldl answer b

variable {b : Browser}

theorem replay_append (calls more : List Call) :
    b.replay (calls ++ more) = (b.replay calls).replay more :=
  List.foldl_append

theorem calls_answer (call : Call) : (b.answer call).calls = b.calls ++ [call] := by
  cases call with
  | openPage url =>
      rw [answer, openPage]
      split <;> rfl
  | _ => rfl

/-- Every call is put on record. -/
theorem calls_replay (calls : List Call) : (b.replay calls).calls = b.calls ++ calls := by
  induction calls generalizing b with
  | nil => exact (List.append_nil b.calls).symm
  | cons call calls ih =>
      refine ih.trans ?_
      rw [calls_answer, List.append_assoc, List.singleton_append]

theorem unreachable_replay (calls : List Call) : (b.replay calls).unreachable = b.unreachable := by
  induction calls generalizing b with
  | nil => rfl
  | cons call calls ih =>
      refine ih.trans ?_
      cases call with
      | openPage url =>
          rw [answer, openPage]
          split <;> rfl
      | _ => rfl

theorem openPage_eq_ok {url : String} (h : b.unreachable.contains url = false) :
    b.openPage url = (.ok (), b.replay [.openPage url]) := by
  rw [replay, List.foldl_cons, List.foldl_nil, answer, openPage, if_neg (Bool.eq_false_iff.mp h)]

theorem openPage_eq_error {url : String} (h : b.unreachable.contains url = true) :
    b.openPage url
      = (.error (.browser ("Cannot open " ++ url)), b.replay [.openPage url]) := by
  rw [replay, List.foldl_cons, List.foldl_nil, answer, openPage, if_pos h]

theorem setCookies_eq_replay (cookies : List String) :
    b.setCookies cookies = b.replay (cookies.map .setCookie) := by
  rw [setCookies, replay, List.foldl_map]
  rfl

end Browser

/-- The specs of some files, passed one after another over a page. -/
inductive Checked (tree : FileTree) (filter : TagFilter) (page : Page) :
    List Path → Report → Prop where
  | nil : Checked tree filter page [] {}
  | cons {path : Path} {rest : List Path} {document : Document} {first others : Report} :
    Document.ofFile tree path = .ok document →
    validate tree filter 0 false document page = some first →
    Checked tree filter page rest others →
    Checked tree filter page (path :: rest) (first ++ others)

/-- What an action comes to in a browser: the failures that it finds or the error that stops it,
what it asks the browser to do, and the events of its passes. -/
inductive Action.Performs (tree : FileTree) (b : Browser) :
    Action → Except Error (List Failure) → List Call → List Event → Prop where
  | openPage {url : String} : b.unreachable.contains url = false →
    Performs tree b (.openPage url) (.ok []) [.openPage url] []
  | unreachable {url : String} : b.unreachable.contains url = true →
    Performs tree b (.openPage url) (.error (.browser ("Cannot open " ++ url))) [.openPage url] []
  | resize {size : Size} : Performs tree b (.resize size) (.ok []) [.resize size] []
  | setCookies {cookies : List String} :
    Performs tree b (.setCookies cookies) (.ok []) (cookies.map .setCookie) []
  | inject {path : Path} {script : String} : readScript tree path = .ok script →
    Performs tree b (.inject path) (.ok []) [.inject script] []
  | noScript {path : Path} {e : Error} : readScript tree path = .error e →
    Performs tree b (.inject path) (.error e) [] []
  | run {path : Path} {text : Option String} {script : String} {arguments : Option String} :
    readCall tree path text = .ok (script, arguments) →
    Performs tree b (.run path text) (.ok []) [.run script arguments] []
  | noCall {path : Path} {text : Option String} {e : Error} : readCall tree path text = .error e →
    Performs tree b (.run path text) (.error e) [] []
  | check {specs : List Path} {filter : TagFilter} {report : Report} :
    Checked tree filter b.page specs report →
    Performs tree b (.check specs filter) (.ok report.failures) [] report.events
  /-- The first spec that cannot be read stops a check. The passes before it were told. -/
  | unreadable {specs rest : List Path} {path : Path} {filter : TagFilter} {report : Report}
    {e : Error} :
    Checked tree filter b.page specs report → Document.ofFile tree path = .error e →
    Performs tree b (.check (specs ++ path :: rest) filter) (.error e) [] report.events

namespace Action

variable {tree : FileTree} {filter : TagFilter} {page : Page} {specs : List Path}

/-- Behind specs that were passed, a check goes on with the others, and what they report stands
behind what was reported already. A spec that cannot be read is met with all of these reports in
front of it. -/
theorem checkSpecs_append {report : Report} (h : Checked tree filter page specs report)
    (rest : List Path) :
    checkSpecs tree filter page (specs ++ rest)
      = (checkSpecs tree filter page rest).map fun (error, others) =>
        (error, report ++ others) := by
  induction h with
  | nil =>
      rw [List.nil_append]
      cases checkSpecs tree filter page rest <;> rfl
  | @cons path specs document first others hdocument hfirst _ ih =>
      rw [List.cons_append, checkSpecs, hdocument]
      simp only [hfirst, Option.bind_eq_bind, Option.bind_some, ih]
      cases checkSpecs tree filter page rest with
      | none => rfl
      | some found =>
          simp only [Option.map_some, Option.bind_some, Report.append_assoc]
          rfl

theorem checkSpecs_of_checked {report : Report} (h : Checked tree filter page specs report) :
    checkSpecs tree filter page specs = some (none, report) := by
  have happend := checkSpecs_append h []
  rw [List.append_nil] at happend
  rw [happend, checkSpecs, Option.map_some]
  exact congrArg (fun all => some (none, all)) (Report.append_empty report)

/-- A check passes all of its specs, or it comes to one that cannot be read or to a pass without
end. -/
theorem exists_checked (tree : FileTree) (filter : TagFilter) (page : Page) (specs : List Path) :
    (∃ report, Checked tree filter page specs report) ∨
      ∃ before path rest report, specs = before ++ path :: rest ∧
        Checked tree filter page before report ∧
        ((∃ e, Document.ofFile tree path = .error e) ∨
          ∃ document, Document.ofFile tree path = .ok document ∧
            validate tree filter 0 false document page = none) := by
  induction specs with
  | nil => exact .inl ⟨{}, .nil⟩
  | cons path specs ih =>
      cases hdocument : Document.ofFile tree path with
      | error e => exact .inr ⟨[], path, specs, {}, rfl, .nil, .inl ⟨e, hdocument⟩⟩
      | ok document =>
          cases hfirst : validate tree filter 0 false document page with
          | none =>
              exact .inr ⟨[], path, specs, {}, rfl, .nil, .inr ⟨document, hdocument, hfirst⟩⟩
          | some first =>
              rcases ih with ⟨others, hothers⟩ | ⟨before, last, rest, others, rfl, hothers, hend⟩
              · exact .inl ⟨first ++ others, .cons hdocument hfirst hothers⟩
              · exact .inr ⟨path :: before, last, rest, first ++ others, rfl,
                  .cons hdocument hfirst hothers, hend⟩

/-- What the passes of a check tell is in order: each of them is finished before the next one
starts. -/
theorem ordered_of_checked {report : Report} (h : Checked tree filter page specs report) :
    report.OrderedObjects 0 := by
  induction h with
  | nil => exact .untold []
  | @cons path _ document first others _ hfirst _ ih =>
      have hpass : first.OrderedObjects 0 :=
        Pass.ordered_of_outcome (p := ⟨0, false, document, page⟩) rfl hfirst
      exact hpass.append ih

section

variable {b : Browser} {a : Action} {result : Except Error (List Failure)} {calls : List Call}
  {events : List Event}

theorem bracketed_of_performs (h : a.Performs tree b result calls events) : Bracketed events := by
  cases h with
  | check hchecked => exact (ordered_of_checked hchecked).bracketed
  | unreadable hchecked _ => exact (ordered_of_checked hchecked).bracketed
  | _ => exact .nil

/-- What `Performs` says of an action is what it comes to. The relation lists the ways in which an
action can end; each of them is followed here through the function. -/
theorem perform_of_performs (h : a.Performs tree b result calls events) :
    a.perform tree b = some ⟨result, b.replay calls, events⟩ := by
  cases h with
  | openPage h =>
      rw [perform, Browser.openPage_eq_ok h]
      rfl
  | unreachable h =>
      rw [perform, Browser.openPage_eq_error h]
      rfl
  | resize => rfl
  | setCookies =>
      rw [perform, Browser.setCookies_eq_replay]
  | inject h =>
      rw [perform, h]
      rfl
  | noScript h =>
      rw [perform, h]
      rfl
  | run h =>
      rw [perform, h]
      rfl
  | noCall h =>
      rw [perform, h]
      rfl
  | check hchecked =>
      rw [perform, checkSpecs_of_checked hchecked]
      rfl
  | @unreadable _ _ _ _ report _ hchecked herror =>
      rw [perform, checkSpecs_append hchecked, checkSpecs, herror]
      exact congrArg (fun r : Report => some (ActionRun.mk _ b r.events))
        (Report.append_empty report)

inductive Starts (tree : FileTree) (b : Browser) : Action → TagFilter → Pass → Prop where
  | check {specs rest : List Path} {path : Path} {filter : TagFilter} {report : Report}
    {document : Document} : Checked tree filter b.page specs report →
    Document.ofFile tree path = .ok document →
    Starts tree b (.check (specs ++ path :: rest) filter) filter ⟨0, false, document, b.page⟩

/-- An action comes to something, or to a pass without end. No third way is left, so that the
relation `Performs` says all about actions that come to something. -/
theorem exists_performs (tree : FileTree) (b : Browser) (a : Action) :
    (∃ result calls events, a.Performs tree b result calls events) ∨
      ∃ filter p, a.Starts tree b filter p ∧ p.outcome tree filter = none := by
  cases a with
  | openPage url =>
      cases h : b.unreachable.contains url with
      | false => exact .inl ⟨_, _, _, .openPage h⟩
      | true => exact .inl ⟨_, _, _, .unreachable h⟩
  | resize size => exact .inl ⟨_, _, _, .resize⟩
  | setCookies cookies => exact .inl ⟨_, _, _, .setCookies⟩
  | inject path =>
      cases h : readScript tree path with
      | error e => exact .inl ⟨_, _, _, .noScript h⟩
      | ok script => exact .inl ⟨_, _, _, .inject h⟩
  | run path text =>
      cases h : readCall tree path text with
      | error e => exact .inl ⟨_, _, _, .noCall h⟩
      | ok call => exact .inl ⟨_, _, _, .run h⟩
  | check specs filter =>
      rcases exists_checked tree filter b.page specs with
        ⟨report, h⟩ | ⟨before, path, rest, report, rfl, h, ⟨e, he⟩ | ⟨document, hdocument, hnone⟩⟩
      · exact .inl ⟨_, _, _, .check h⟩
      · exact .inl ⟨_, _, _, .unreadable h he⟩
      · exact .inr ⟨filter, _, .check h hdocument, hnone⟩

/-- A pass that an action starts has an outcome if the action has one. A pass without end would
leave the action without an outcome. -/
theorem exists_outcome_of_performs {p : Pass} (h : a.Performs tree b result calls events)
    (hp : a.Starts tree b filter p) : ∃ r, p.outcome tree filter = some r := by
  cases hp with
  | @check specs rest path filter report document hchecked hdocument =>
      have hperform := perform_of_performs h
      rw [perform, checkSpecs_append hchecked, checkSpecs, hdocument] at hperform
      cases hfirst : validate tree filter 0 false document b.page with
      | some first => exact ⟨first, hfirst⟩
      | none =>
          simp only [hfirst] at hperform
          cases hperform

/-- What an action comes to is what it does: the result, the calls by which the browser is changed,
and the events of its passes. -/
theorem perform_eq_some_iff {run : ActionRun} :
    a.perform tree b = some run ↔ ∃ calls, a.Performs tree b run.result calls run.events ∧
      run.browser = b.replay calls := by
  constructor
  · intro h
    rcases exists_performs tree b a with ⟨result, calls, events, hperforms⟩ | ⟨filter, p, hp, hnone⟩
    · obtain rfl := Option.some.inj (h.symm.trans (perform_of_performs hperforms))
      exact ⟨calls, hperforms, rfl⟩
    · cases hp with
      | check hchecked hdocument =>
          have hendless : validate tree filter 0 false _ b.page = none := hnone
          rw [perform, checkSpecs_append hchecked, checkSpecs, hdocument] at h
          simp only [hendless] at h
          cases h
  · rintro ⟨calls, hperforms, hbrowser⟩
    rw [perform_of_performs hperforms, ← hbrowser]

end

end Action

end LayoutSpec
