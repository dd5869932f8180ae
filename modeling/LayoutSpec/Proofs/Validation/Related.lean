import LayoutSpec.Proofs.Validation.Nesting

/-!
Two walks side by side, whatever they tell. They enter passes that are related, and if the failures
of these are related too, they come to related results. What is said of two parts of a pass is put
together from what is said of their parts, and where the one comes to its result the other one does.
-/

namespace LayoutSpec

namespace Walk

variable {α β γ δ : Type}

/-- Walks that enter passes of which the one stands for the other, and come to results related by
`R` whenever the failures of the passes are related by `Q`. -/
inductive Related (same : Pass → Pass → Prop) (Q : List Failure → List Failure → Prop)
    (R : α → β → Prop) : Walk α → Walk β → Prop where
  | done {a : α} {b : β} : R a b → Related same Q R (done a) (done b)
  | tellFirst {e : Event} {x : Walk α} {y : Walk β} : Related same Q R x y →
    Related same Q R (tell e x) y
  | tellSecond {e : Event} {x : Walk α} {y : Walk β} : Related same Q R x y →
    Related same Q R x (tell e y)
  | enter {p q : Pass} {next : List Failure → Walk α} {next' : List Failure → Walk β} : same p q →
    (∀ failures failures', Q failures failures' →
      Related same Q R (next failures) (next' failures')) →
    Related same Q R (enter p next) (enter q next')

variable {same : Pass → Pass → Prop} {Q : List Failure → List Failure → Prop} {R : α → β → Prop}
  {S : γ → δ → Prop} {x : Walk α} {y : Walk β}

namespace Related

theorem pure {a : α} {b : β} (h : R a b) :
    Related same Q R (Pure.pure a : Walk α) (Pure.pure b : Walk β) :=
  .done h

theorem bind {f : α → Walk γ} {g : β → Walk δ} (hxy : Related same Q R x y)
    (hfg : ∀ a b, R a b → Related same Q S (f a) (g b)) :
    Related same Q S (x >>= f) (y >>= g) := by
  induction hxy with
  | done hab => exact hfg _ _ hab
  | tellFirst _ ih => exact .tellFirst ih
  | tellSecond _ ih => exact .tellSecond ih
  | enter hpq _ ih => exact .enter hpq fun failures failures' h => ih failures failures' h

/-- What is told makes no difference. -/
theorem tellOf {silent silent' : Bool} {e e' : Event} (h : Related same Q R x y) :
    Related same Q R (tellOf silent e >>= fun _ => x) (tellOf silent' e' >>= fun _ => y) := by
  have hsecond : Related same Q R x (Walk.tellOf silent' e' >>= fun _ => y) := by
    cases silent' with
    | true => exact h
    | false => exact .tellSecond h
  cases silent with
  | true => exact hsecond
  | false => exact .tellFirst hsecond

/-- Related failures at things that are not told apart are collected into related ones, if putting
lists of failures together keeps the relation. -/
theorem collect {P : List Failure → List Failure → Prop} {f : α → Walk (List Failure)}
    {g : β → Walk (List Failure)} {m : α → γ} {n : β → γ} (hnil : P [] [])
    (happend : ∀ {first first' others others' : List Failure}, P first first' → P others others' →
      P (first ++ others) (first' ++ others'))
    (hfg : ∀ a b, m a = n b → Related same Q P (f a) (g b)) {xs : List α} {ys : List β}
    (h : xs.map m = ys.map n) :
    Related same Q P (Walk.collect f xs) (Walk.collect g ys) := by
  induction xs generalizing ys with
  | nil =>
      obtain rfl : ys = [] := List.map_eq_nil_iff.mp h.symm
      exact .pure hnil
  | cons a xs ih =>
      cases ys with
      | nil => cases h
      | cons b ys =>
          obtain ⟨hab, htail⟩ := List.cons.inj h
          refine (hfg a b hab).bind fun first first' hfirst => ?_
          exact (ih htail).bind fun others others' hothers => .pure (happend hfirst hothers)

variable {reports more : Pass → Option Report}

/-- Of two related walks, the second one comes to a result if the first one does, and the results
are related. What has to be known of the passes inside is given for each pair that the walks enter
together. -/
theorem exists_heard {a : α} {events : List Event} (h : Related same Q R x y)
    (hmore : ∀ p q r, same p q → reports p = some r →
      ∃ r', more q = some r' ∧ Q r.failures r'.failures)
    (hx : x.heard reports = some (a, events)) :
    ∃ b events', y.heard more = some (b, events') ∧ R a b := by
  induction h generalizing a events with
  | @done a' b hab =>
      obtain rfl : a' = a := (Prod.mk.inj (Option.some.inj hx)).1
      exact ⟨b, [], rfl, hab⟩
  | tellFirst _ ih =>
      rw [heard_tell] at hx
      obtain ⟨⟨a', later⟩, hnext, htold⟩ := Option.map_eq_some_iff.mp hx
      obtain ⟨rfl, -⟩ := Prod.mk.inj htold
      exact ih hnext
  | @tellSecond e _ _ _ ih =>
      obtain ⟨b, events', hy, hab⟩ := ih hx
      refine ⟨b, e :: events', ?_, hab⟩
      rw [heard_tell, hy]
      rfl
  | @enter p q next next' hpq _ ih =>
      rw [heard_enter] at hx
      obtain ⟨r, hr, hx⟩ := Option.bind_eq_some_iff.mp hx
      obtain ⟨⟨a', later⟩, hnext, htold⟩ := Option.map_eq_some_iff.mp hx
      obtain ⟨rfl, -⟩ := Prod.mk.inj htold
      obtain ⟨r', hr', hfailures⟩ := hmore _ _ r hpq hr
      obtain ⟨b, events', hy, hab⟩ := ih _ _ hfailures hnext
      refine ⟨b, r'.events ++ events', ?_, hab⟩
      rw [heard_enter, hr', Option.bind_some, hy]
      rfl

/-- What the first of two related walks enters, the second one enters as well, in a pass that stands
for it. -/
theorem exists_enters {p : Pass} (h : Related same Q R x y)
    (hmore : ∀ p q r, same p q → reports p = some r →
      ∃ r', reports q = some r' ∧ Q r.failures r'.failures)
    (hx : x.Enters reports p) : ∃ q, y.Enters reports q ∧ same p q := by
  induction h with
  | done hab => exact absurd hx id
  | tellFirst _ ih => exact ih hx
  | tellSecond _ ih => exact ih hx
  | @enter p' q' next next' hpq _ ih =>
      rcases hx with rfl | ⟨r, hr, hlater⟩
      · exact ⟨q', .inl rfl, hpq⟩
      · obtain ⟨r', hr', hfailures⟩ := hmore p' q' r hpq hr
        obtain ⟨q, hq, hsame⟩ := ih _ _ hfailures hlater
        exact ⟨q, .inr ⟨r', hr', hq⟩, hsame⟩

end Related

end Walk

end LayoutSpec
