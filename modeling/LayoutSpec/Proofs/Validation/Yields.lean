import LayoutSpec.Proofs.Validation.Walk

/-!
What a walk comes to, whatever it learns. If the reports of the passes that it enters are as `Q`
says, then its result and what is heard of it are as `R` says; what holds of every pass in this way
holds of every outcome.
-/

namespace LayoutSpec

namespace Walk

variable {α β : Type} {Q : Pass → Report → Prop} {R : α → List Event → Prop}
  {S : β → List Event → Prop} {x : Walk α}

/-- The walk comes to a result and tells of events as `R` says if it enters passes with reports as
`Q` says. -/
def Yields (Q : Pass → Report → Prop) (R : α → List Event → Prop) : Walk α → Prop
  | done a => R a []
  | tell e next => next.Yields Q fun a events => R a (e :: events)
  | enter p next => ∀ r, Q p r →
    (next r.failures).Yields Q fun a events => R a (r.events ++ events)

/-- What the report about a part of a pass is like. -/
abbrev YieldsReport (Q : Pass → Report → Prop) (P : Report → Prop) (x : Walk (List Failure)) :
    Prop :=
  x.Yields Q fun failures events => P ⟨failures, events⟩

namespace Yields

theorem mono {T : α → List Event → Prop} (hx : x.Yields Q R)
    (h : ∀ a events, R a events → T a events) :
    x.Yields Q T := by
  induction x generalizing R T with
  | done a => exact h a [] hx
  | tell e next ih => exact ih hx fun a events => h a (e :: events)
  | enter p next ih =>
    exact fun r hr => ih r.failures (hx r hr) fun a events => h a (r.events ++ events)

theorem bind {f : α → Walk β} (hx : x.Yields Q R)
    (hf : ∀ a first, R a first → (f a).Yields Q fun b events => S b (first ++ events)) :
    (x >>= f).Yields Q S := by
  induction x generalizing R S with
  | done a => exact hf a [] hx
  | tell e next ih => exact ih hx fun a first ha => hf a (e :: first) ha
  | enter p next ih =>
      intro r hr
      apply ih r.failures (hx r hr)
      intro a first ha
      simpa only [List.append_assoc] using hf a (r.events ++ first) ha

/-- The event of which it is told stands in front of the others. -/
theorem tellOf {e : Event} (hx : x.Yields Q fun a events => R a (e :: events)) :
    (Walk.tellOf false e >>= fun _ => x).Yields Q R :=
  hx

/-- A verdict about the failures of one pass stands behind the events of the pass. Nothing more is
known of the pass than what is said of its reports. -/
theorem enter {p : Pass} {f : List Failure → α} (h : ∀ r, Q p r → R (f r.failures) r.events) :
    (Walk.enter p fun failures => Pure.pure (f failures)).Yields Q R := by
  intro r hr
  change R (f r.failures) (r.events ++ [])
  rw [List.append_nil]
  exact h r hr

/-- Reports about some things are collected into a report about all of them. The property of the
whole has to be built from the end, one thing at a time. -/
theorem collect {P : List β → Report → Prop} {T : β → Report → Prop} {f : β → Walk (List Failure)}
    (hnil : P [] {})
    (hcons : ∀ b bs r others, T b r → P bs others → P (b :: bs) (r ++ others))
    {bs : List β} (hf : ∀ b ∈ bs, (f b).YieldsReport Q (T b)) :
    (Walk.collect f bs).YieldsReport Q (P bs) := by
  induction bs with
  | nil => exact hnil
  | cons b bs ih =>
      refine (hf b (List.mem_cons_self)).bind fun first told hfirst => ?_
      have hrest := ih fun b hb => hf b (List.mem_cons_of_mem _ hb)
      refine hrest.bind fun others told' hothers => ?_
      change P (b :: bs) ⟨first ++ others, told ++ (told' ++ [])⟩
      rw [List.append_nil]
      exact hcons b bs ⟨first, told⟩ ⟨others, told'⟩ hfirst hothers

/-- What a walk yields holds of what is heard of it, if the reports of its passes are as they should
be. -/
theorem of_heard {reports : Pass → Option Report} {a : α} {events : List Event} (hx : x.Yields Q R)
    (hQ : ∀ p r, reports p = some r → Q p r) (hheard : x.heard reports = some (a, events)) :
    R a events := by
  induction x generalizing R a events with
  | done b =>
      obtain ⟨rfl, rfl⟩ := Prod.mk.inj (Option.some.inj hheard)
      exact hx
  | tell e next ih =>
      rw [heard_tell] at hheard
      obtain ⟨⟨b, later⟩, hnext, htold⟩ := Option.map_eq_some_iff.mp hheard
      obtain ⟨rfl, rfl⟩ := Prod.mk.inj htold
      exact ih (R := fun a events => R a (e :: events)) hx hnext
  | enter p next ih =>
      rw [heard_enter] at hheard
      obtain ⟨r, hr, hheard⟩ := Option.bind_eq_some_iff.mp hheard
      obtain ⟨⟨b, later⟩, hnext, htold⟩ := Option.map_eq_some_iff.mp hheard
      obtain ⟨rfl, rfl⟩ := Prod.mk.inj htold
      exact ih r.failures (R := fun a events => R a (r.events ++ events)) (hx r (hQ p r hr)) hnext

end Yields

/-- A walk that learns the failures of passes comes to the result that it has with all their
reports. -/
theorem yields_heard {reports : Pass → Option Report} (hQ : ∀ p r, Q p r → reports p = some r)
    (x : Walk α) : x.Yields Q fun a events => x.heard reports = some (a, events) := by
  induction x with
  | done a => rfl
  | tell e next ih =>
      refine ih.mono fun a events ha => ?_
      rw [heard_tell, ha]
      rfl
  | enter p next ih =>
      intro r hr
      refine (ih r.failures).mono fun a events ha => ?_
      rw [heard_enter, hQ p r hr, Option.bind_some, ha]
      rfl

end Walk

/-- What walks yield, given that it holds of the outcomes of the passes inside, holds of every
outcome. -/
theorem Pass.of_yields {tree : FileTree} {filter : TagFilter} {Q : Pass → Report → Prop} {p : Pass}
    {r : Report}
    (hwalk : ∀ p : Pass, (p.walk tree filter).YieldsReport
      (fun q r => q.outcome tree filter = some r ∧ Q q r) (Q p))
    (h : p.outcome tree filter = some r) : Q p r := by
  refine of_outcome (fun reports p r hreports hr => ?_) h
  exact (hwalk p).of_heard hreports (Walk.report_eq_some_iff.mp hr)

end LayoutSpec
