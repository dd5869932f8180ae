import LayoutSpec.Proofs.Page
import LayoutSpec.Proofs.Validation.Alike
import LayoutSpec.Proofs.Validation.Nesting
import Mathlib.Data.Finite.Prod
import Mathlib.Data.Fintype.Pigeonhole
import Mathlib.Data.Nat.SuccPred
import Mathlib.Data.Set.Finite.Basic
import Mathlib.Order.SuccPred.Relation

/-!
Which passes go on without end. A tree has finitely many files, and from a page finitely many pages
can be seen, so that a chain of passes without end comes to the spec of one file over one page
twice. The reverse holds too: a pass that leads to its like leads to it again and again.
-/

namespace LayoutSpec

open Relation

namespace Pass

variable {tree : FileTree} {filter : TagFilter} {p q : Pass} {f : Nat → Pass}

/-- The document of a pass is what the file with that key says. -/
def Reads (tree : FileTree) (p : Pass) (key : FileKey) : Prop :=
  ∃ path, tree.fileKey? path = some key ∧ Document.ofFile tree path = .ok p.document

/-- Two passes check what one file says over the same page. -/
def Repeats (tree : FileTree) (p q : Pass) : Prop :=
  p.page = q.page ∧ ∃ key, p.Reads tree key ∧ q.Reads tree key

theorem Repeats.alike (h : p.Repeats tree q) : p.Alike tree q := by
  obtain ⟨hpage, key, ⟨path, hkey, hp⟩, path', hkey', hq⟩ := h
  have hresolve : tree.resolve path = tree.resolve path' :=
    (FileTree.fileKey?_eq_some_iff.mp hkey).trans (FileTree.fileKey?_eq_some_iff.mp hkey').symm
  have hdocuments := Document.alikeBy_ofFile hresolve
  rw [hp, hq] at hdocuments
  exact ⟨hpage, Option.some.inj hdocuments⟩

/-- A pass that is started has the spec of a file of the tree. The first pass of a chain may have
any spec. -/
theorem Starts.exists_reads (h : p.Starts tree filter q) :
    ∃ key ∈ tree.files.map Prod.fst, q.Reads tree key := by
  obtain ⟨⟨spec, hspec⟩, -⟩ := h.comesTo
  obtain ⟨text, htext⟩ := Document.of_ofFile_eq_ok hspec
  obtain ⟨key, hplace, hcontent⟩ := FileTree.of_read_eq_ok htext
  refine ⟨key, ?_, spec, FileTree.fileKey?_eq_some_iff.mpr hplace, hspec⟩
  exact List.mem_map.mpr ⟨_, mem_of_lookup_eq_some hcontent, rfl⟩

section Chain

variable (hf : ∀ n, (f n).Starts tree filter (f (n + 1)))

include hf

theorem chain_reaches (n : Nat) : ReflTransGen (Starts tree filter) (f 0) (f n) := by
  have hsteps := reflTransGen_of_succ_of_le (fun a b => (f a).Starts tree filter (f b))
    (fun i _ => hf i) (Nat.zero_le n)
  exact hsteps.lift f fun _ _ h => h

theorem chain_leads {m n : Nat} (h : m < n) : TransGen (Starts tree filter) (f m) (f n) := by
  have hsteps := transGen_of_succ_of_lt (fun a b => (f a).Starts tree filter (f b))
    (fun i _ => hf i) h
  exact hsteps.lift f fun _ _ h => h

theorem chain_page_mem_views (n : Nat) : (f n).page ∈ (f 0).page.views := by
  induction n with
  | zero => exact Page.self_mem_views _
  | succ n ih =>
      obtain ⟨-, locator, hsub⟩ := (hf n).comesTo
      exact Page.mem_views_of_subPage? (f 0).page ih hsub

/-- A chain without end comes to the spec of one file over one page twice. There are finitely many
files, and finitely many pages that can be seen from the first one. -/
theorem exists_repeats_of_chain : ∃ m n, m < n ∧ (f m).Repeats tree (f n) := by
  have hreads : ∀ n, ∃ key ∈ tree.files.map Prod.fst, (f (n + 1)).Reads tree key :=
    fun n => (hf n).exists_reads
  choose key hkey hreads using hreads
  -- What the pass after `n` others checks, among the finitely many things to check.
  let checked :
      Nat → { key // key ∈ tree.files.map Prod.fst } × { page // page ∈ (f 0).page.views } :=
    fun n => (⟨key n, hkey n⟩, ⟨(f (n + 1)).page, chain_page_mem_views hf (n + 1)⟩)
  have hkeys : Finite { key // key ∈ tree.files.map Prod.fst } := (List.finite_toSet _).to_subtype
  have hpages : Finite { page // page ∈ (f 0).page.views } := (List.finite_toSet _).to_subtype
  obtain ⟨m, n, hne, hsame⟩ := Finite.exists_ne_map_eq_of_infinite checked
  obtain ⟨hkeys, hpages⟩ := Prod.mk.inj hsame
  have hkeys : key m = key n := congrArg Subtype.val hkeys
  have hpages : (f (m + 1)).page = (f (n + 1)).page := congrArg Subtype.val hpages
  rcases Nat.lt_or_gt_of_ne hne with hless | hless
  · exact ⟨m + 1, n + 1, by omega, hpages, key m, hreads m, hkeys ▸ hreads n⟩
  · exact ⟨n + 1, m + 1, by omega, hpages.symm, key n, hreads n, hkeys ▸ hreads m⟩

end Chain

namespace EveryChainEnds

theorem of_reaches (h : p.EveryChainEnds tree filter)
    (hq : ReflTransGen (Starts tree filter) p q) : q.EveryChainEnds tree filter := by
  induction hq with
  | refl => exact h
  | tail _ hstep ih => exact ih.inv hstep

/-- A pass does not lead to one like it if every chain from it ends. The way from the one to the
other could be repeated without end. -/
theorem not_alike (h : p.EveryChainEnds tree filter) (hq : TransGen (Starts tree filter) p q) :
    ¬ p.Alike tree q := by
  induction h generalizing q with
  | intro p _ ih =>
      intro halike
      obtain ⟨x, hx, hlater⟩ := TransGen.head'_iff.mp hq
      -- What is like `p` starts a pass that is like the one that `p` starts.
      obtain ⟨y, hy, hxy⟩ := halike.exists_starts hx
      exact ih x hx (TransGen.tail' hlater hy) hxy

end EveryChainEnds

theorem exists_repeats_of_not_everyChainEnds (h : ¬ p.EveryChainEnds tree filter) :
    ∃ x y, ReflTransGen (Starts tree filter) p x ∧ TransGen (Starts tree filter) x y ∧
      x.Repeats tree y := by
  obtain ⟨f, rfl, hf⟩ := not_acc_iff_exists_descending_chain.mp h
  obtain ⟨m, n, hless, hrepeats⟩ := exists_repeats_of_chain hf
  exact ⟨f m, f n, chain_reaches hf m, chain_leads hf hless, hrepeats⟩

end Pass

/-- Validation comes to an end exactly if none of its passes leads back to the spec of the same file
over the same page. -/
theorem exists_validate_iff (tree : FileTree) (filter : TagFilter) (depth : Nat) (silent : Bool)
    (document : Document) (page : Page) :
    (∃ report, validate tree filter depth silent document page = some report) ↔
      ¬ ∃ p q, ReflTransGen (Pass.Starts tree filter) ⟨depth, silent, document, page⟩ p ∧
        TransGen (Pass.Starts tree filter) p q ∧ p.Repeats tree q := by
  have hends : (∃ report, validate tree filter depth silent document page = some report) ↔
      Pass.EveryChainEnds tree filter ⟨depth, silent, document, page⟩ :=
    Pass.exists_outcome_iff_everyChainEnds tree filter ⟨depth, silent, document, page⟩
  rw [hends]
  constructor
  · rintro h ⟨p, q, hp, hq, hrepeats⟩
    exact (h.of_reaches hp).not_alike hq hrepeats.alike
  · intro h
    by_contra hendless
    exact h (Pass.exists_repeats_of_not_everyChainEnds hendless)

def loopText : String :=
  "=====\nbox css b\n=====\nbox\n    component: loop.spec\n"

def loopTree : FileTree where
  files := [(["loop.spec"], .text loopText)]

def loopDocument : Document where
  objects := .ofList [("box", ⟨.css, "b", none⟩)]
  sections := [{ groups := [{ pattern := "box", constraints := [.component ⟨"loop.spec"⟩] }] }]

/-- A page with an element in its left upper corner. It looks the same from there. -/
def cornerPage : Page where
  elements := [(⟨.css, "b", none⟩, .shown ⟨0, 0, 10, 10⟩)]

theorem ofFile_loopTree : Document.ofFile loopTree ⟨"loop.spec"⟩ = .ok loopDocument := by
  have hkey : loopTree.fileKey? ⟨"loop.spec"⟩ = some ["loop.spec"] := by decide +kernel
  have hparent : (Path.mk "loop.spec").parent? = some ⟨""⟩ := by decide +kernel
  refine Document.ofFile_eq_ok hkey rfl ?_
  rw [hparent, Document.readWithin]
  rfl

theorem component_loopDocument (depth : Nat) :
    Check.component (Scope.ofDocument loopDocument cornerPage .all loopTree depth) "box"
      ⟨"loop.spec"⟩ = .ok (loopDocument, cornerPage, ⟨.css, "b", none⟩) := by
  have hfile : loopTree.isFile ⟨"loop.spec"⟩ = true := by decide +kernel
  simp only [Check.component, Scope.ofDocument, hfile, ofFile_loopTree]
  rfl

/-- The pass of the spec that is its own component starts the same pass one component deeper. -/
theorem loopDocument_starts (depth : Nat) :
    Pass.Starts loopTree .all ⟨depth, false, loopDocument, cornerPage⟩
      ⟨depth + 1, false, loopDocument, cornerPage⟩ := by
  let scope := Scope.ofDocument loopDocument cornerPage .all loopTree depth
  have hnames : scope.names "box" = .ok ["box"] := rfl
  have hconstraint : (scope.checkConstraint false "box" (.component ⟨"loop.spec"⟩)).Enters
      (Pass.outcome loopTree .all) ⟨depth + 1, false, loopDocument, cornerPage⟩ := by
    rw [Scope.checkConstraint, component_loopDocument]
    exact .inl rfl
  have hgroup : (scope.checkGroup false ⟨"box", [.component ⟨"loop.spec"⟩]⟩).Enters
      (Pass.outcome loopTree .all) ⟨depth + 1, false, loopDocument, cornerPage⟩ := by
    rw [Scope.checkGroup, hnames]
    apply Walk.Enters.collect
    apply Walk.Enters.tellOf
    apply Walk.Enters.bind
    exact hconstraint.bind
  -- The section of the spec is its only one, and the group the only one there.
  have hsections : loopDocument.sections.filter (fun sec => scope.filter.accepts sec.tags)
      = [{ groups := [⟨"box", [.component ⟨"loop.spec"⟩]⟩] }] := rfl
  rw [Pass.Starts, Pass.walk, Scope.checkSections, hsections]
  apply Walk.Enters.collect
  apply Walk.Enters.tellOf
  apply Walk.Enters.bind
  apply Walk.Enters.collect
  assumption

/-- The pass of the spec that is its own component goes on without end. -/
theorem validate_loopDocument :
    Document.ofFile loopTree ⟨"loop.spec"⟩ = .ok loopDocument ∧
      validate loopTree .all 0 false loopDocument cornerPage = none := by
  refine ⟨ofFile_loopTree, ?_⟩
  cases hreport : validate loopTree .all 0 false loopDocument cornerPage with
  | none => rfl
  | some report =>
      have hends : Pass.EveryChainEnds loopTree .all ⟨0, false, loopDocument, cornerPage⟩ :=
        Pass.everyChainEnds_of_outcome hreport
      exact absurd ⟨rfl, rfl⟩ (hends.not_alike (.single (loopDocument_starts 0)))

end LayoutSpec
