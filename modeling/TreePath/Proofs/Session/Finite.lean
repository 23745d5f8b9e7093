import TreePath.Proofs.Json.Decimal
import TreePath.Proofs.Session.Canonical

/-!
# Finite trees and products

Documents hold finite numbers, and so do literals; merges and all operations but one keep a finite
tree finite. A product is not held to the range of its class, so it can be infinite although the
number and the factor are finite, and an infinite number is written as `null`. The tree is finite
all along a session, and is written in full, exactly if every product is finite.
-/

namespace TreePath

open Value Run

variable {tree v : Value} {c : Command} {d : Directive} {step : Step} {steps : List Step}

/-- What is read from texts is finite. -/
theorem Number.read_isFinite : Number.Read Number.isFinite where
  document _ _ h := Json.Numeral.isFinite_of_value h
  literal text n h := by
    rw [Literal.finiteNumber?] at h
    split at h
    · cases h
      exact Number.isFinite_ofInt
    · obtain ⟨x, hx, rfl⟩ := Option.map_eq_some_iff.mp h
      exact (Option.filter_eq_some_iff.mp hx).2

/-! ## Trees that are written in full -/

/-- Nothing is lost when a tree is written: its numbers are finite, none of them is written as
`null`, and if a document may be as deep as the tree, what is read of it has all its entries and
elements, with a number wherever there was one. -/
structure Json.WrittenInFull (v : Value) : Prop where
  isFinite : v.allNumbers Number.isFinite
  notNull : v.allNumbers fun n => numberText n != ['n', 'u', 'l', 'l']
  decodes : v.depth ≤ depthLimit → ∃ g : Number → Number, ∀ style,
    decode (encode style v) = .ok (v.mapNumbers g)

theorem Value.Sound.writtenInFull (h : Sound Number.isFinite v) : Json.WrittenInFull v where
  isFinite := h.allNumbers
  notNull := by
    have htext (n : Number) : (Json.numberText n != ['n', 'u', 'l', 'l']) = n.isFinite := by
      rw [Bool.eq_iff_iff, bne_iff_ne, ne_eq, Json.numberText_eq_null_iff, Bool.not_eq_false]
    simpa only [htext] using h.allNumbers
  decodes hdepth := by
    obtain ⟨g, hg⟩ := Json.exists_decode_encode
    exact ⟨g, fun style => hg style v ⟨h.isDistinct, h.isValid, hdepth, h.allNumbers⟩⟩

/-! ## A finite tree after a multiplication -/

/-- A tree that is sound after a run was so before, and all that is reported is finite. -/
def Traces (v : Value) (hits : List Value) (w : Value) : Prop :=
  Sound Number.isFinite w → Sound Number.isFinite v ∧ ∀ hit ∈ hits, hit.allNumbers Number.isFinite

theorem composes_traces : Composes Traces where
  refl _ := fun h => ⟨h, List.forall_mem_nil _⟩
  trans first others := by
    intro hw
    obtain ⟨hv, hothers⟩ := others hw
    obtain ⟨hu, hhits⟩ := first hv
    exact ⟨hu, List.forall_mem_append.mpr ⟨hhits, hothers⟩⟩
  below := by
    intro v key child hits next hchild htraces hw
    obtain ⟨hsound, hhits⟩ := htraces (hw.childAt (childAt_replaceChild_self hchild))
    exact ⟨hw.of_replaceChild hchild hsound, hhits⟩

/-- Multiplying leaves a finite number only of a finite number. -/
theorem Effect.traces {key : Key} {change : Change} (h : Effect d v key change)
    (hname : d.name = some "times") : Traces v [change.result] change.container := by
  cases h with
  | multiplied _ _ hchild =>
    intro hw
    have hproduct := hw.childAt (childAt_replaceChild_self hchild)
    have hn := Number.isFinite_of_times (sound_number.mp hproduct)
    exact ⟨hw.of_replaceChild hchild (sound_number.mpr hn),
      List.forall_mem_singleton.mpr hproduct.allNumbers⟩
  | put hother _ => exact absurd hname hother
  | removed hother _ => exact absurd hname hother
  | appended hother _ _ => exact absurd hname hother
  | cleared hother _ _ => exact absurd hname hother

/-- The products of a command that leaves a finite tree are finite. -/
theorem Registry.finite_products (h : Sound Number.isFinite (builtin.run c tree).tree) :
    ∀ product ∈ c.products (builtin.run c tree).hits, product.allNumbers Number.isFinite := by
  by_cases hname : c.operation.bind Directive.name = some "times"
  · have hrun : (builtin.run c tree).Tracks Traces tree := by
      refine tracks_run composes_traces fun last hlast operation hoperation v keys hkeys => ?_
      refine tracks_inTurn composes_traces fun key hkey v => ?_
      refine tracks_visitLast composes_traces hoperation (fun hnone => ?_)
        fun d hd change heffect => ?_
      · rw [hnone] at hname
        cases hname
      · rw [hd, Option.bind_some] at hname
        exact heffect.traces hname
    rw [Command.products, if_pos hname]
    exact (hrun h).2
  · rw [Command.products, if_neg hname]
    exact List.forall_mem_nil _

namespace Step

/-- A step that is given as a text: a command, or a merge of a document. -/
def IsText : Step → Prop
  | count _ | results _ => True
  | change _ _ => False
  | merge overlay => ∃ document, Json.decode document = .ok overlay

theorem finite_products_count {text : String}
    (h : Sound Number.isFinite ((count text).onto tree)) :
    ∀ product ∈ (count text).products tree, product.allNumbers Number.isFinite := by
  simp only [products, onto, Registry.onCommand] at h ⊢
  cases hread : Registry.builtin.parseCommand text with
  | error e => exact List.forall_mem_nil _
  | ok c =>
    rw [hread] at h
    exact Registry.finite_products h

/-- The products of a step that leaves a finite tree are finite. -/
theorem finite_products (h : Sound Number.isFinite (step.onto tree)) :
    ∀ product ∈ step.products tree, product.allNumbers Number.isFinite := by
  cases step with
  | count text => exact finite_products_count h
  | results text =>
    rw [onto_results] at h
    exact finite_products_count h
  | change mutator path => exact List.forall_mem_nil _
  | merge overlay => exact List.forall_mem_nil _

/-- What a step that is given as a text brings in is finite. -/
theorem IsText.incoming (h : step.IsText) (hv : step.incoming? = some v) :
    v.isDistinct ∧ v.allNumbers Number.isFinite := by
  cases step with
  | merge overlay =>
    obtain ⟨document, hdocument⟩ := h
    obtain rfl := Option.some.inj hv
    have hfits := Json.fits_of_decode Number.read_isFinite.document hdocument
    exact ⟨hfits.isDistinct, hfits.allNumbers⟩
  | change mutator path => cases h
  | count text => cases hv
  | results text => cases hv

end Step

namespace Session

/-- If every step leaves a finite tree, every product is finite. -/
theorem finite_products (h : ∀ n, Sound Number.isFinite (after (steps.take n) tree)) :
    ∀ product ∈ products steps tree, product.allNumbers Number.isFinite := by
  induction steps generalizing tree with
  | nil => exact List.forall_mem_nil _
  | cons step rest ih =>
    exact List.forall_mem_append.mpr ⟨Step.finite_products (h 1), ih fun n => h (n + 1)⟩

/-- From a document on, whatever texts are the steps and whether they succeed or fail, the tree is
finite and written in full after every step exactly if all products are finite. -/
theorem writtenInFull_after_iff {document : String} (hdocument : Json.decode document = .ok tree)
    (hsteps : ∀ step ∈ steps, step.IsText) :
    (∀ n, Json.WrittenInFull (after (steps.take n) tree)) ↔
      ∀ product ∈ products steps tree, product.allNumbers Number.isFinite := by
  have hincoming : ∀ step ∈ steps, ∀ v, step.incoming? = some v →
      v.isDistinct ∧ v.allNumbers Number.isFinite := fun step hstep _ hv =>
    (hsteps step hstep).incoming hv
  constructor
  · intro hwritten
    refine finite_products fun n => ?_
    obtain ⟨hvalid, hdistinct⟩ := valid_distinct_after (.decoded hdocument)
      (fun step hstep v hv => (hincoming step hstep v hv).1) n
    exact ⟨hdistinct, validate_eq_ok.mp hvalid, (hwritten n).isFinite⟩
  · intro hproducts n
    have hprefix : ∀ product ∈ products (steps.take n) tree,
        product.allNumbers Number.isFinite := by
      intro product hproduct
      refine hproducts product ?_
      rw [← List.take_append_drop n steps, products_append]
      exact List.mem_append_left _ hproduct
    have hsound : Sound Number.isFinite (after (steps.take n) tree) :=
      sound_after Number.read_isFinite (fun _ _ => Number.isFinite_coerceTo)
        (fun step hstep => hincoming step (List.mem_of_mem_take hstep)) hprefix
        (Json.fits_of_decode Number.read_isFinite.document hdocument).sound
    exact hsound.writtenInFull

/-- A product, a merge that narrows a number, and a command that fails. -/
theorem writtenInFull_after_iff_narrowed :
    let tree : Value := .map [("a", .number (.ofInt 7))]
    let overlay : Value := .map [("a", .number (.ofInt 4294967296)), ("b", .list [])]
    let steps : List Step := [.count "//a!times(-3)", .merge overlay, .results "//b/2!unset"]
    Json.decode "\x7b\"a\": 7\x7d" = .ok tree ∧ (∀ step ∈ steps, step.IsText) ∧
      (∀ product ∈ products steps tree, product.allNumbers Number.isFinite) ∧
      ∀ n, Json.WrittenInFull (after (steps.take n) tree) := by
  intro tree overlay steps
  have hdocument : Json.decode "\x7b\"a\": 7\x7d" = .ok tree := by with_unfolding_all rfl
  have hoverlay : Json.decode "\x7b\"a\": 4294967296, \"b\": []\x7d" = .ok overlay := by
    with_unfolding_all rfl
  have hsteps : ∀ step ∈ steps, step.IsText :=
    List.forall_mem_cons.mpr ⟨trivial, List.forall_mem_cons.mpr ⟨⟨_, hoverlay⟩,
      List.forall_mem_singleton.mpr trivial⟩⟩
  have hproducts : ∀ product ∈ products steps tree, product.allNumbers Number.isFinite :=
    List.all_eq_true.mp (by decide +kernel)
  exact ⟨hdocument, hsteps, hproducts, (writtenInFull_after_iff hdocument hsteps).mpr hproducts⟩

/-- A document with a finite number and a command with a finite factor give an infinite number. It
is written as `null`, and when that document is read the entry is gone. -/
theorem infinite_after_times : ∃ tree, Json.decode "\x7b\"a\": 1e308\x7d" = .ok tree ∧
    tree.allNumbers Number.isFinite ∧
    (after [.count "//a!times(10)"] tree).allNumbers Number.isFinite = false ∧
    Json.encode .compact (after [.count "//a!times(10)"] tree) = "\x7b\"a\":null\x7d" ∧
    Json.decode "\x7b\"a\":null\x7d" = .ok (.map []) := by
  have hrun : ((Json.decode "\x7b\"a\": 1e308\x7d").toOption.map fun tree =>
      let last := after [.count "//a!times(10)"] tree
      (tree.allNumbers Number.isFinite, last.allNumbers Number.isFinite,
        Json.encode .compact last)) = some (true, false, "\x7b\"a\":null\x7d") := by
    decide +kernel
  obtain ⟨tree, htree, hlast⟩ := Option.map_eq_some_iff.mp hrun
  simp only [Prod.mk.injEq] at hlast
  obtain ⟨hfinite, hinfinite, hwritten⟩ := hlast
  refine ⟨tree, ?_, hfinite, hinfinite, hwritten, by with_unfolding_all rfl⟩
  cases hdecode : Json.decode "\x7b\"a\": 1e308\x7d" with
  | error e => rw [hdecode] at htree; cases htree
  | ok v => rw [hdecode] at htree; cases htree; rfl

end Session

end TreePath
