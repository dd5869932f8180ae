import LayoutSpec.Proofs.Validation.Walk

/-!
When a pass comes to an end. A pass starts the passes that its walk enters, one after another as far
as each has an outcome, and it has an outcome exactly if no chain of started passes goes on without
end.
-/

namespace LayoutSpec

namespace Walk

variable {α β : Type} {reports more : Pass → Option Report} {x : Walk α} {p : Pass}

/-- The passes that a walk enters, as far as it gets. -/
def Enters (reports : Pass → Option Report) : Walk α → Pass → Prop
  | done _, _ => False
  | tell _ next, q => next.Enters reports q
  | enter p next, q => q = p ∨ ∃ r, reports p = some r ∧ (next r.failures).Enters reports q

theorem Enters.bind {f : α → Walk β} (h : x.Enters reports p) : (x >>= f).Enters reports p := by
  induction x with
  | done a => exact absurd h id
  | tell e next ih => exact ih h
  | enter q next ih =>
      rcases h with rfl | ⟨r, hr, hlater⟩
      · exact .inl rfl
      · exact .inr ⟨r, hr, ih r.failures hlater⟩

/-- Telling does not keep a walk from what it enters. -/
theorem Enters.tellOf {silent : Bool} {e : Event} (h : x.Enters reports p) :
    (tellOf silent e >>= fun _ => x).Enters reports p := by
  cases silent with
  | true => exact h
  | false => exact h

theorem Enters.collect {f : β → Walk (List Failure)} {b : β} {rest : List β}
    (h : (f b).Enters reports p) : (Walk.collect f (b :: rest)).Enters reports p :=
  h.bind

/-- A walk comes to its result if every pass that it enters has a report. The passes that it enters
depend on the reports of those before. -/
theorem exists_heard (h : ∀ p, x.Enters reports p → ∃ r, reports p = some r) :
    ∃ told, x.heard reports = some told := by
  induction x with
  | done a => exact ⟨_, rfl⟩
  | tell e next ih =>
      obtain ⟨told, htold⟩ := ih h
      rw [heard_tell, htold]
      exact ⟨_, rfl⟩
  | enter p next ih =>
      obtain ⟨r, hr⟩ := h p (.inl rfl)
      obtain ⟨told, htold⟩ := ih r.failures fun q hq => h q (.inr ⟨r, hr, hq⟩)
      rw [heard_enter, hr, Option.bind_some, htold]
      exact ⟨_, rfl⟩

/-- A walk that came to its result enters no other passes if there are more reports. So the fuel
that was enough for it stays enough. -/
theorem exists_report_of_enters {told : α × List Event}
    (hmore : ∀ p r, reports p = some r → more p = some r)
    (hheard : x.heard reports = some told) (henters : x.Enters more p) :
    ∃ r, reports p = some r := by
  induction x generalizing told with
  | done b => exact absurd henters id
  | tell e next ih =>
      rw [heard_tell] at hheard
      obtain ⟨later, hnext, -⟩ := Option.map_eq_some_iff.mp hheard
      exact ih hnext henters
  | enter q next ih =>
      rw [heard_enter] at hheard
      obtain ⟨r, hr, hheard⟩ := Option.bind_eq_some_iff.mp hheard
      obtain ⟨later, hnext, -⟩ := Option.map_eq_some_iff.mp hheard
      rcases henters with rfl | ⟨r', hr', hlater⟩
      · exact ⟨r, hr⟩
      · obtain rfl := Option.some.inj ((hmore q r hr).symm.trans hr')
        exact ih r.failures hnext hlater

end Walk

namespace Pass

variable {tree : FileTree} {filter : TagFilter} {p q : Pass}

/-- A pass comes to a component and starts the pass inside it. -/
def Starts (tree : FileTree) (filter : TagFilter) (p q : Pass) : Prop :=
  (p.walk tree filter).Enters (outcome tree filter) q

/-- The chain of passes inside each other that begins with a pass comes to an end, whichever of them
are followed. -/
def EveryChainEnds (tree : FileTree) (filter : TagFilter) : Pass → Prop :=
  Acc fun q p => p.Starts tree filter q

theorem everyChainEnds_of_outcome {r : Report} (h : p.outcome tree filter = some r) :
    p.EveryChainEnds tree filter := by
  refine of_outcome (Q := fun p _ => p.EveryChainEnds tree filter) ?_ h
  intro reports p r hreports hr
  refine Acc.intro p fun q hq => ?_
  -- A pass that was entered has ended, as the walk around it has.
  obtain ⟨r', hr'⟩ := Walk.exists_report_of_enters (fun q r hq => (hreports q r hq).1)
    (Walk.report_eq_some_iff.mp hr) hq
  exact (hreports q r' hr').2

theorem exists_outcome_of_everyChainEnds (h : p.EveryChainEnds tree filter) :
    ∃ r, p.outcome tree filter = some r := by
  induction h with
  | intro p _ ih =>
      obtain ⟨⟨failures, events⟩, hheard⟩ := Walk.exists_heard (x := p.walk tree filter) ih
      rw [outcome]
      exact ⟨⟨failures, events⟩, Walk.report_eq_some_iff.mpr hheard⟩

/-- A pass has an outcome exactly if no chain of passes inside each other goes on without end. The
fuel of the function has no part in it any more. -/
theorem exists_outcome_iff_everyChainEnds (tree : FileTree) (filter : TagFilter) (p : Pass) :
    (∃ r, p.outcome tree filter = some r) ↔ p.EveryChainEnds tree filter := by
  constructor
  · rintro ⟨r, hr⟩
    exact everyChainEnds_of_outcome hr
  · exact exists_outcome_of_everyChainEnds

end Pass

end LayoutSpec
