import ImageDiscovery.Proofs.Identifier
import ImageDiscovery.Declaration
import ImageDiscovery.Proofs.Template.TwoPasses

/-!
# One pass — what filling in the extension last amounts to

The places of images and of tag documents are rendered in two passes, the extension being filled in
after the variables of the app.  `onePass?` is what a single pass gives, with the extension before all
other variables.  Unless a label takes the place of the extension, whatever a single pass gives is
given by two, and the two agree on all declarations exactly if no value, name and braces around it
put an `{ext}` together (`images_tagDocuments_fillsInLast`).
-/

namespace ImageDiscovery

namespace Declaration

open Template

/-- Both texts of an endpoint, each by a single pass in which the extension comes first. -/
def onePass? (template : Text) (pairs : List (Text × Text)) : Option Endpoint := do
  let signature ← render? template ((extension, signatureExtension) :: pairs)
  let artifact ← render? template ((extension, artifactExtension) :: pairs)
  return ⟨artifact, signature⟩

/-- Filling in the pairs puts no extension together, or what comes of it is not resolved anyway. -/
def KeepsExtension (template : Text) (pairs : List (Text × Text)) : Prop :=
  occurrences extension (render template pairs) = occurrences extension template ∨
    endpoint? (render template pairs) = none

instance (template : Text) (pairs : List (Text × Text)) :
    Decidable (KeepsExtension template pairs) := inferInstanceAs (Decidable (_ ∨ _))

theorem braceFree_extension : BraceFree extension := by decide

/-! ## Both texts at once -/

theorem render?_eq_some {template rendered : Text} {pairs : List (Text × Text)} :
    render? template pairs = some rendered ↔
      render template pairs = rendered ∧ resolved rendered = true := by
  rw [render?]
  by_cases h : resolved (render template pairs) = true
  · rw [if_pos h, Option.some.injEq]
    exact ⟨fun e => ⟨e, e ▸ h⟩, fun e => e.1⟩
  · rw [if_neg h]
    exact ⟨fun e => absurd e (by simp), fun e => absurd (e.1 ▸ e.2) h⟩

theorem endpoint?_eq_some {t : Text} {e : Endpoint} :
    endpoint? t = some e ↔
      render? t [(extension, signatureExtension)] = some e.signature ∧
        render? t [(extension, artifactExtension)] = some e.artifact := by
  rw [endpoint?]
  cases render? t [(extension, signatureExtension)] with
  | none => simp
  | some signature =>
    cases render? t [(extension, artifactExtension)] with
    | none => simp
    | some artifact => cases e; simp [and_comm]

/-! ## One template -/

variable {t : Text} {pairs : List (Text × Text)}

theorem endpoint?_render_of_occurrences_eq (h : LeftOver pairs extension t)
    (hn : occurrences extension (render t pairs) = occurrences extension t) :
    endpoint? (render t pairs) = onePass? t pairs := by
  have htwo (value : Text) :
      render? (render t pairs) [(extension, value)] = render? t ((extension, value) :: pairs) := by
    rw [render?, render_render_of_occurrences_eq braceFree_extension value h hn, render?]
  rw [endpoint?, onePass?, htwo, htwo]

theorem onePass?_eq_none (h : LeftOver pairs extension t)
    (hn : occurrences extension (render t pairs) ≠ occurrences extension t) :
    onePass? t pairs = none := by
  have hle := occurrences_le_render braceFree_extension h
  have hnone := render?_cons_eq_none braceFree_extension (by decide) signatureExtension h
    (by omega)
  rw [onePass?, hnone]
  rfl

/-- What a single pass gives, two passes give. -/
theorem endpoint?_render_of_onePass? (h : LeftOver pairs extension t) {e : Endpoint}
    (he : onePass? t pairs = some e) : endpoint? (render t pairs) = some e := by
  by_cases hn : occurrences extension (render t pairs) = occurrences extension t
  · rw [endpoint?_render_of_occurrences_eq h hn, he]
  · rw [onePass?_eq_none h hn] at he
    exact absurd he (by simp)

theorem endpoint?_render_eq_onePass?_iff (h : LeftOver pairs extension t) :
    endpoint? (render t pairs) = onePass? t pairs ↔ KeepsExtension t pairs := by
  constructor
  · intro he
    by_cases hn : occurrences extension (render t pairs) = occurrences extension t
    · exact .inl hn
    · exact .inr (he.trans (onePass?_eq_none h hn))
  · rintro (hn | hnone)
    · exact endpoint?_render_of_occurrences_eq h hn
    · rw [hnone]
      cases he : onePass? t pairs with
      | none => rfl
      | some e => rw [← hnone, endpoint?_render_of_onePass? h he]

theorem infix_render_single {key : Text} (hkey : BraceFree key) (value : Text) {u : Text}
    (h : 0 < occurrences key u) : value <:+: render u [(key, value)] := by
  induction u using scan (· = key) with
  | nil => exact absurd h (Nat.lt_irrefl _)
  | placeholder k rest hk _ =>
    subst hk
    rw [render_single_placeholder value hkey]
    exact List.infix_append_left
  | cons p rest hp ih =>
    have hnot : ¬ placeholder key <+: p :: rest := not_prefix_of_not_startsWith hp rfl
    rw [occurrences_cons_of_not hnot] at h
    rw [render_single_cons value hnot]
    exact List.infix_cons (ih h)

/-- Where a template asks for the extension, each text carries its own. -/
theorem endpoint?_render_carries (h : LeftOver pairs extension t)
    (hpos : 0 < occurrences extension t) {e : Endpoint}
    (he : endpoint? (render t pairs) = some e) :
    artifactExtension <:+: e.artifact ∧ signatureExtension <:+: e.signature ∧
      e.artifact ≠ e.signature := by
  have hle := occurrences_le_render braceFree_extension h
  rcases endpoint?_eq_some.mp he with ⟨hsig, hart⟩
  rw [← (render?_eq_some.mp hsig).1, ← (render?_eq_some.mp hart).1]
  refine ⟨infix_render_single braceFree_extension _ (by omega),
    infix_render_single braceFree_extension _ (by omega), fun heq => ?_⟩
  -- the extensions differ in length, so the texts do
  have hA := length_render_single artifactExtension braceFree_extension (render t pairs)
  have hS := length_render_single signatureExtension braceFree_extension (render t pairs)
  have hlenA : artifactExtension.length = 3 := by decide
  have hlenS : signatureExtension.length = 7 := by decide
  rw [heq, hlenA] at hA
  rw [hlenS] at hS
  omega

/-! ## All declarations of a page -/

private theorem filterMap_of_le {α β : Type} {f g : α → Option β} {l : List α}
    (h : ∀ x ∈ l, ∀ y, g x = some y → f x = some y) :
    (l.filterMap g).Sublist (l.filterMap f) ∧
      (l.filterMap f = l.filterMap g ↔ ∀ x ∈ l, f x = g x) := by
  induction l with
  | nil => simp
  | cons x l ih =>
    rcases ih fun z hz => h z (.tail _ hz) with ⟨hsub, hiff⟩
    rw [List.forall_mem_cons, List.filterMap_cons, List.filterMap_cons]
    cases hg : g x with
    | some y =>
      rw [h x List.mem_cons_self y hg, List.cons.injEq, hiff]
      exact ⟨hsub.cons_cons y, by simp⟩
    | none =>
      cases hf : f x with
      | none => exact ⟨hsub, by rw [hiff]; simp⟩
      | some y =>
        refine ⟨hsub.cons y, fun heq => ?_, fun hall => absurd hall.1 (by simp)⟩
        -- one more on the left than there can be on the right
        have hlen : (l.filterMap f).length + 1 = (l.filterMap g).length :=
          congrArg List.length heq
        have hle := hsub.length_le
        omega

/-- How what is found by filling in the extension last compares with single passes. -/
structure FillsInLast (found : List Endpoint) (declarations : List Declaration)
    (pairs : List (Text × Text)) : Prop where
  /-- What is found is what two passes give for one declaration after another. -/
  twice : found = declarations.filterMap fun d => endpoint? (render d.template pairs)
  /-- What single passes give is found, in the same order. -/
  among : (declarations.filterMap fun d => onePass? d.template pairs).Sublist found
  /-- It is all that is found exactly if no first pass puts an extension together. -/
  all : found = (declarations.filterMap fun d => onePass? d.template pairs) ↔
    ∀ d ∈ declarations, KeepsExtension d.template pairs
  /-- So it is if no value has an opening brace and those of the templates open placeholders. -/
  tidy : (∀ pair ∈ pairs, CodePoint.char '{' ∉ pair.2) → (∀ d ∈ declarations, Tidy d.template) →
    found = declarations.filterMap fun d => onePass? d.template pairs
  /-- Where a template asks for the extension, each text of what is found for it carries its own. -/
  carried : ∀ d ∈ declarations, 0 < occurrences extension d.template →
    ∀ e, endpoint? (render d.template pairs) = some e →
      e ∈ found ∧ artifactExtension <:+: e.artifact ∧ signatureExtension <:+: e.signature ∧
        e.artifact ≠ e.signature

theorem fillsInLast_of_leftOver {declarations : List Declaration}
    (h : ∀ d ∈ declarations, LeftOver pairs extension d.template) :
    FillsInLast (declarations.filterMap fun d => endpoint? (render d.template pairs))
      declarations pairs := by
  rcases filterMap_of_le fun d hd _ he => endpoint?_render_of_onePass? (h d hd) he with ⟨hsub, hiff⟩
  have hkeeps : (∀ d ∈ declarations, endpoint? (render d.template pairs) =
      onePass? d.template pairs) ↔ ∀ d ∈ declarations, KeepsExtension d.template pairs :=
    forall₂_congr fun d hd => endpoint?_render_eq_onePass?_iff (h d hd)
  refine ⟨rfl, hsub, hiff.trans hkeeps, ?_, ?_⟩
  · intro hvalues htidy
    refine (hiff.trans hkeeps).mpr fun d hd => .inl ?_
    exact occurrences_render_of_tidy braceFree_extension hvalues (htidy d hd) (h d hd)
  · intro d hd hpos e he
    exact ⟨List.mem_filterMap.mpr ⟨d, hd, he⟩, endpoint?_render_carries (h d hd) hpos he⟩

theorem valueOf_substitutes {app : App} (h : app.labels.get? extension = none) :
    valueOf app.substitutes extension = none := by
  apply valueOf_eq_none
  rw [App.substitutes, List.map_cons, List.mem_cons, not_or]
  refine ⟨(by decide : extension ≠ reservedLabel), fun hmem => ?_⟩
  rcases List.mem_map.mp hmem with ⟨entry, hentry, hfst⟩
  rw [Mapping.sorted, List.mem_mergeSort] at hentry
  rw [Mapping.get?, Mapping.lookup_eq_none_iff] at h
  exact h (List.mem_map.mpr ⟨entry, hentry, hfst⟩)

/-- **Two passes and one.**  For images of an app without a label that is called like the extension, or
    from templates that do not ask for it, and for tag documents of every app: what single passes give
    is found, and it is all that is found exactly if no name, value and braces around it put an
    extension together in a text that ends up resolved. -/
theorem images_tagDocuments_fillsInLast (declarations : List Declaration) (app : App) :
    ((∀ d ∈ applicable declarations .images app,
        app.labels.get? extension = none ∨ occurrences extension d.template = 0) →
      FillsInLast (images declarations app) (applicable declarations .images app)
        app.substitutes) ∧
      FillsInLast (tagDocuments declarations app) (applicable declarations .tags app)
        [(reservedLabel, app.name)] ∧
      CodePoint.char '{' ∉ app.name := by
  refine ⟨fun h => ?_, ?_, fun hmem => ?_⟩
  · exact fillsInLast_of_leftOver fun d hd => (h d hd).imp_left valueOf_substitutes
  · refine fillsInLast_of_leftOver fun d _ => .inl ?_
    rw [valueOf_cons, if_neg (by decide)]
    rfl
  · exact absurd (app.isPoint_of_mem_name hmem) (by decide)

theorem images_tagDocuments_fillsInLast_version :
    let declarations : List Declaration := [
      ⟨"ac-discovery", "example.com", "https://s/{name}-{version}.{ext}"⟩,
      ⟨"ac-discovery", "example.com", "https://t/{version}"⟩]
    let app : App := ⟨"example.com/a", ⟨[("version", "1.0")], by simp⟩, by decide, by decide⟩
    (∀ d ∈ applicable declarations .images app,
        app.labels.get? extension = none ∨ occurrences extension d.template = 0) ∧
      (∀ d ∈ applicable declarations .images app, KeepsExtension d.template app.substitutes) ∧
      FillsInLast (images declarations app) (applicable declarations .images app)
        app.substitutes := by
  intro declarations app
  have h : ∀ d ∈ applicable declarations .images app,
      app.labels.get? extension = none ∨ occurrences extension d.template = 0 := by decide
  exact ⟨h, by decide +kernel, (images_tagDocuments_fillsInLast declarations app).1 h⟩

/-- Two passes are not one pass for every app: a label may be called like the extension, and a name
    between braces may put the extension together. -/
theorem exists_images_tagDocuments_ne_onePass :
    (¬ ∀ (declarations : List Declaration) (app : App), images declarations app =
        (applicable declarations .images app).filterMap fun d =>
          onePass? d.template app.substitutes) ∧
      ¬ ∀ (declarations : List Declaration) (app : App), tagDocuments declarations app =
        (applicable declarations .tags app).filterMap fun d =>
          onePass? d.template [(reservedLabel, app.name)] := by
  constructor
  · intro h
    have := h [⟨"ac-discovery", "example.com", "https://s/{name}.{ext}"⟩]
      ⟨"example.com/a", ⟨[("ext", "zip")], by simp⟩, by decide, by decide⟩
    exact absurd this (by decide +kernel)
  · intro h
    have := h [⟨"ac-discovery-tags", "ext", "https://s/{{name}}"⟩]
      ⟨"ext", ⟨[], by simp⟩, by decide, by decide⟩
    exact absurd this (by decide +kernel)

end Declaration

end ImageDiscovery
