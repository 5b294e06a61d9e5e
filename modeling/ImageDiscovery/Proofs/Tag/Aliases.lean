import ImageDiscovery.Proofs.Mapping
import ImageDiscovery.Tag
import Mathlib.Data.List.Chain
import Mathlib.Data.List.Nodup
import Mathlib.Logic.Relation

/-!
# Aliases — where the aliases of a tag lead

Aliases are followed one by one, and the tags that were met are kept.  As no tag is passed twice, there
are never more steps than aliases: the way ends at a tag without an alias, or it comes back to a tag that
was passed.  If it comes back, it never ends, however far it is followed.
-/

namespace ImageDiscovery

namespace TagData

variable {aliases : Mapping Text} {start tag next : Text} {passed chain : List Text} {steps : Nat}
  {found : Route}

/-! ## Aliases as a graph -/

/-- A tag is an alias of the next one. -/
def Leads (aliases : Mapping Text) (tag next : Text) : Prop := aliases.get? tag = some next

/-- The aliases from a tag end at a tag that has none. -/
def EndsAt (aliases : Mapping Text) (tag last : Text) : Prop :=
  Relation.ReflTransGen (Leads aliases) tag last ∧ aliases.get? last = none

/-- A way along the aliases that comes back to a tag it has passed, and to no tag before that. -/
structure IsCircle (aliases : Mapping Text) (start : Text) (chain : List Text) : Prop where
  starts : chain.head? = some start
  entries : chain.IsChain (Leads aliases)
  distinct : chain.dropLast.Nodup
  closes : ∃ last ∈ chain.dropLast, chain.getLast? = some last

/-- Following aliases step by step: with the tags that were passed, the last of which is `tag`, so many
    more aliases are followed until it is known where they lead. -/
inductive Follows (aliases : Mapping Text) : List Text → Text → Nat → Route → Prop where
  | ends {passed : List Text} {tag : Text} (h : aliases.get? tag = none) :
    Follows aliases passed tag 0 (.ends tag)
  | circles {passed : List Text} {tag next : Text} (h : Leads aliases tag next)
    (hnext : next ∈ passed) : Follows aliases passed tag 1 (.circles (passed ++ [next]))
  | onward {passed : List Text} {tag next : Text} {steps : Nat} {found : Route}
    (h : Leads aliases tag next) (hnext : next ∉ passed)
    (hrest : Follows aliases (passed ++ [next]) next steps found) :
    Follows aliases passed tag (steps + 1) found

theorem Leads.eq {other : Text} (h : Leads aliases tag next) (hother : Leads aliases tag other) :
    next = other :=
  Option.some.inj (h.symm.trans hother)

/-- Each tag of a way but the last one leads to another tag of the way. -/
theorem exists_leads_of_mem_dropLast (h : chain.IsChain (Leads aliases)) (hmem : tag ∈ chain.dropLast) :
    ∃ next ∈ chain, Leads aliases tag next := by
  induction chain with
  | nil => exact nomatch hmem
  | cons first rest ih =>
    cases rest with
    | nil => exact nomatch hmem
    | cons second rest =>
      have hsteps := List.isChain_cons_cons.mp h
      by_cases htag : tag = first
      · exact ⟨second, by simp, htag ▸ hsteps.1⟩
      · have hlater : tag ∈ (second :: rest).dropLast :=
          (List.mem_cons.mp hmem).resolve_left htag
        have ⟨next, hnext, hleads⟩ := ih hsteps.2 hlater
        exact ⟨next, .tail _ hnext, hleads⟩

/-! ## Where a way ends -/

theorem EndsAt.unique {last other : Text} (h : EndsAt aliases tag last)
    (hother : EndsAt aliases tag other) : last = other := by
  have hstuck : ∀ {s t}, aliases.get? s = none → Relation.ReflTransGen (Leads aliases) s t → s = t := by
    intro s t hnone hway
    rcases hway.cases_head with hsame | ⟨next, hleads, -⟩
    · exact hsame
    · exact nomatch hnone.symm.trans hleads
  -- of two ways from one tag, one goes on where the other one is
  have hright : Relator.RightUnique (Leads aliases) := fun _ _ _ hb hc => hb.eq hc
  cases h.1.total_of_right_unique hright hother.1 with
  | inl hway => exact hstuck h.2 hway
  | inr hway => exact (hstuck hother.2 hway).symm

/-- What is met from a circle on is in the circle, so none of it is without an alias. -/
theorem IsCircle.not_endsAt (h : IsCircle aliases start chain) : ¬ ∃ last, EndsAt aliases start last := by
  rintro ⟨last, hway, hnone⟩
  have hinside : ∀ t ∈ chain, t ∈ chain.dropLast := by
    intro t ht
    have ⟨repeated, hrepeated, hlast⟩ := h.closes
    have hsplit : chain = chain.dropLast ++ [repeated] := (List.dropLast_append_getLast? _ hlast).symm
    rw [hsplit, List.mem_append, List.mem_singleton] at ht
    cases ht with
    | inl ht => exact ht
    | inr ht => exact ht ▸ hrepeated
  have hmet : last ∈ chain.dropLast := by
    clear hnone
    induction hway with
    | refl => exact hinside start (List.mem_of_mem_head? h.starts)
    | tail _ hstep ih =>
      have ⟨next, hnext, hleads⟩ := exists_leads_of_mem_dropLast h.entries ih
      exact hinside _ (hleads.eq hstep ▸ hnext)
  have ⟨next, _, hleads⟩ := exists_leads_of_mem_dropLast h.entries hmet
  exact nomatch hnone.symm.trans hleads

/-! ## The way so far -/

/-- The tags from `start` on to `tag`, none of them twice. -/
structure Walked (aliases : Mapping Text) (start : Text) (passed : List Text) (tag : Text) : Prop where
  starts : passed.head? = some start
  entries : passed.IsChain (Leads aliases)
  distinct : passed.Nodup
  last : passed.getLast? = some tag
  way : Relation.ReflTransGen (Leads aliases) start tag

theorem walked_start (aliases : Mapping Text) (tag : Text) : Walked aliases tag [tag] tag :=
  ⟨rfl, List.isChain_singleton tag, List.nodup_singleton tag, rfl, .refl⟩

theorem Walked.entries_append (h : Walked aliases start passed tag) (hleads : Leads aliases tag next) :
    (passed ++ [next]).IsChain (Leads aliases) := by
  refine h.entries.append (List.isChain_singleton next) ?_
  intro s hs t ht
  have hs : tag = s := Option.some.inj (h.last.symm.trans hs)
  have ht : next = t := Option.some.inj ht
  exact hs ▸ ht ▸ hleads

theorem Walked.head?_append (h : Walked aliases start passed tag) (next : Text) :
    (passed ++ [next]).head? = some start := by
  rw [List.head?_append, h.starts]
  rfl

theorem Walked.onward (h : Walked aliases start passed tag) (hleads : Leads aliases tag next)
    (hnext : next ∉ passed) : Walked aliases start (passed ++ [next]) next where
  starts := h.head?_append next
  entries := h.entries_append hleads
  distinct := by
    rw [List.nodup_append]
    refine ⟨h.distinct, List.nodup_singleton next, ?_⟩
    intro s hs t ht heq
    exact hnext (List.mem_singleton.mp ht ▸ heq ▸ hs)
  last := List.getLast?_concat
  way := h.way.tail hleads

theorem Walked.isCircle (h : Walked aliases start passed tag) (hleads : Leads aliases tag next)
    (hnext : next ∈ passed) : IsCircle aliases start (passed ++ [next]) where
  starts := h.head?_append next
  entries := h.entries_append hleads
  distinct := by
    rw [List.dropLast_concat]
    exact h.distinct
  closes := ⟨next, by rw [List.dropLast_concat]; exact hnext, List.getLast?_concat⟩

/-- Every tag of a way but the last has an alias of its own. -/
theorem length_le_of_isChain (h : chain.IsChain (Leads aliases)) (hdistinct : chain.dropLast.Nodup) :
    chain.length ≤ aliases.size + 1 := by
  have hkeys : chain.dropLast ⊆ aliases.keys := by
    intro t ht
    have ⟨next, _, hleads⟩ := exists_leads_of_mem_dropLast h ht
    exact List.mem_map_of_mem (Mapping.mem_of_get? hleads)
  have hle := hdistinct.length_le_of_subset hkeys
  have hsize : aliases.keys.length = aliases.size := List.length_map _
  rw [List.length_dropLast, hsize] at hle
  omega

/-- The tag that is passed now, and those before it, have aliases of their own. -/
theorem Walked.length_le (h : Walked aliases start passed tag) (hleads : Leads aliases tag next) :
    passed.length ≤ aliases.size := by
  have hle := length_le_of_isChain (h.entries_append hleads)
    (by rw [List.dropLast_concat]; exact h.distinct)
  rw [List.length_append, List.length_singleton] at hle
  omega

/-! ## Following the aliases -/

/-- With a step for each alias that is left, and one more, it is known where they lead. -/
theorem Walked.follows (h : Walked aliases start passed tag)
    (hsteps : aliases.size + 1 < passed.length + steps) :
    ∃ followed, Follows aliases passed tag followed (follow aliases passed tag steps) := by
  induction steps generalizing passed tag with
  | zero =>
    have hle := length_le_of_isChain h.entries (h.distinct.sublist (List.dropLast_sublist _))
    omega
  | succ steps ih =>
    rw [follow]
    cases halias : aliases.get? tag with
    | none => exact ⟨0, .ends halias⟩
    | some next =>
      show ∃ followed, Follows aliases passed tag followed (if next ∈ passed then _ else _)
      by_cases hnext : next ∈ passed
      · rw [if_pos hnext]
        exact ⟨1, .circles halias hnext⟩
      · rw [if_neg hnext]
        have hlength : aliases.size + 1 < (passed ++ [next]).length + steps := by
          rw [List.length_append, List.length_singleton]
          omega
        have ⟨followed, hrest⟩ := ih (h.onward halias hnext) hlength
        exact ⟨followed + 1, .onward halias hnext hrest⟩

/-- As many aliases as there are, counting those that were followed before. -/
theorem Follows.length_le (h : Follows aliases passed tag steps found)
    (hwalked : Walked aliases start passed tag) : passed.length + steps ≤ aliases.size + 1 := by
  induction h with
  | ends =>
    exact length_le_of_isChain hwalked.entries
      (hwalked.distinct.sublist (List.dropLast_sublist _))
  | circles hleads =>
    have hle := hwalked.length_le hleads
    omega
  | onward hleads hnext _ ih =>
    have hle := ih (hwalked.onward hleads hnext)
    rw [List.length_append, List.length_singleton] at hle
    omega

/-- There is one way to follow aliases. -/
theorem Follows.unique {others : Nat} {other : Route} (h : Follows aliases passed tag steps found)
    (hother : Follows aliases passed tag others other) : others = steps ∧ other = found := by
  induction h generalizing others other with
  | ends hnone =>
    cases hother with
    | ends => exact ⟨rfl, rfl⟩
    | circles hleads => exact nomatch hnone.symm.trans hleads
    | onward hleads => exact nomatch hnone.symm.trans hleads
  | circles hleads hnext =>
    cases hother with
    | ends hnone => exact nomatch hnone.symm.trans hleads
    | circles hleads' => exact ⟨rfl, by rw [hleads.eq hleads']⟩
    | onward hleads' hnext' => exact absurd (hleads.eq hleads' ▸ hnext) hnext'
  | onward hleads hnext _ ih =>
    cases hother with
    | ends hnone => exact nomatch hnone.symm.trans hleads
    | circles hleads' hnext' => exact absurd (hleads.eq hleads' ▸ hnext') hnext
    | onward hleads' _ hrest =>
      have hsame := ih (hleads.eq hleads' ▸ hrest)
      exact ⟨by rw [hsame.1], hsame.2⟩

/-- What is found out about a tag is so. -/
def Route.IsFrom (aliases : Mapping Text) (start : Text) : Route → Prop
  | .ends last => EndsAt aliases start last
  | .circles chain => IsCircle aliases start chain

theorem Follows.isFrom (h : Follows aliases passed tag steps found)
    (hwalked : Walked aliases start passed tag) : found.IsFrom aliases start := by
  induction h with
  | ends hnone => exact ⟨hwalked.way, hnone⟩
  | circles hleads hnext => exact hwalked.isCircle hleads hnext
  | onward hleads hnext _ ih => exact ih (hwalked.onward hleads hnext)

/-! ## Resolving a tag -/

variable (data : TagData) (tag : Text)

theorem exists_follows_route : ∃ steps, Follows data.aliases [tag] tag steps (data.route tag) :=
  (walked_start data.aliases tag).follows (by rw [List.length_singleton]; omega)

theorem isFrom_route : (data.route tag).IsFrom data.aliases tag := by
  have ⟨_, hroute⟩ := data.exists_follows_route tag
  exact hroute.isFrom (walked_start data.aliases tag)

theorem resolve_of_endsAt {data : TagData} {tag last : Text} (h : EndsAt data.aliases tag last) :
    data.resolve tag = .ok (data.labels.get? last) := by
  have hfrom := data.isFrom_route tag
  unfold resolve
  cases hroute : data.route tag with
  | ends other =>
    rw [hroute] at hfrom
    show Except.ok (data.labels.get? other) = _
    rw [EndsAt.unique hfrom h]
  | circles chain =>
    rw [hroute] at hfrom
    exact absurd ⟨last, h⟩ (IsCircle.not_endsAt hfrom)

theorem isCircle_of_resolve {data : TagData} {tag : Text} {chain : List Text}
    (h : data.resolve tag = .error chain) : IsCircle data.aliases tag chain := by
  have hfrom := data.isFrom_route tag
  unfold resolve at h
  cases hroute : data.route tag with
  | ends last =>
    rw [hroute] at h
    exact nomatch h
  | circles other =>
    rw [hroute] at h hfrom
    exact Except.error.inj h ▸ hfrom

theorem exists_endsAt_or_resolve_eq_error :
    (∃ last, EndsAt data.aliases tag last) ∨ ∃ chain, data.resolve tag = .error chain := by
  have hfrom := data.isFrom_route tag
  unfold resolve
  cases hroute : data.route tag with
  | ends last =>
    rw [hroute] at hfrom
    exact .inl ⟨last, hfrom⟩
  | circles chain => exact .inr ⟨chain, rfl⟩

theorem exists_resolve_eq_error_iff :
    (∃ chain, data.resolve tag = .error chain) ↔ ¬ ∃ last, EndsAt data.aliases tag last := by
  constructor
  · intro ⟨chain, hchain⟩
    exact (isCircle_of_resolve hchain).not_endsAt
  · exact (data.exists_endsAt_or_resolve_eq_error tag).resolve_left

/-- How a tag is resolved, by what its aliases are. -/
structure ResolvesTag (data : TagData) (tag : Text) : Prop where
  /-- Following the aliases comes to an end, in one way, after as many steps as there are aliases at
      most. -/
  halts : ∃ steps ≤ data.aliases.size, ∀ followed found,
    Follows data.aliases [tag] tag followed found ↔ followed = steps ∧ found = data.route tag
  fails_iff : (∃ chain, data.resolve tag = .error chain) ↔
    ¬ ∃ last, EndsAt data.aliases tag last
  circle : ∀ chain, data.resolve tag = .error chain → IsCircle data.aliases tag chain
  unique : ∀ last other, EndsAt data.aliases tag last → EndsAt data.aliases tag other → last = other
  /-- Tags on the way may have labels, but those of the last one count. -/
  labels : ∀ last, EndsAt data.aliases tag last →
    data.resolve tag = .ok (data.labels.get? last) ∧
      (data.resolve tag = .ok none ↔ last ∉ data.labels.keys)

/-- **Resolving tags.**  The aliases of every tag are followed to their end in at most as many steps as
    there are aliases.  A tag fails if and only if its aliases never come to a tag without one, and the
    tags that are told then are a circle.  Otherwise it has the labels of the one tag where they end. -/
theorem resolve_of_aliases : ResolvesTag data tag where
  halts := by
    have ⟨steps, hroute⟩ := data.exists_follows_route tag
    have hle := hroute.length_le (walked_start data.aliases tag)
    rw [List.length_singleton] at hle
    refine ⟨steps, by omega, fun followed found => ⟨hroute.unique, ?_⟩⟩
    intro ⟨hsteps, hfound⟩
    rw [hsteps, hfound]
    exact hroute
  fails_iff := data.exists_resolve_eq_error_iff tag
  circle := fun _ => isCircle_of_resolve
  unique := fun _ _ => EndsAt.unique
  labels := by
    intro last hlast
    have hresolve := resolve_of_endsAt hlast
    have hkeys : data.labels.get? last = none ↔ last ∉ data.labels.keys := Mapping.lookup_eq_none_iff
    refine ⟨hresolve, ?_⟩
    rw [hresolve, Except.ok.injEq, hkeys]

/-- The labels of a tag on the way do not count, and a way that comes into a circle starts outside. -/
theorem resolve_of_aliases_latest :
    let data : TagData := ⟨
      ⟨[("latest", "stable"), ("stable", "2"), ("x", "y"), ("y", "y")], by decide⟩,
      ⟨[("stable", ⟨[("os", "linux")], by decide⟩), ("2", ⟨[("version", "2.0")], by decide⟩)],
        by decide⟩, by decide⟩
    data.resolve "latest" = .ok (some ⟨[("version", "2.0")], by decide⟩) ∧
      IsCircle data.aliases "x" ["x", "y", "y"] := by
  intro data
  have hstable : Leads data.aliases "latest" "stable" := by
    rw [Leads]
    decide
  have hversion : Leads data.aliases "stable" "2" := by
    rw [Leads]
    decide
  have hlast : EndsAt data.aliases "latest" "2" := ⟨.tail (.single hstable) hversion, by decide⟩
  have hlabels := ((resolve_of_aliases data "latest").labels "2" hlast).1
  have hcircle := (resolve_of_aliases data "x").circle ["x", "y", "y"] (by decide)
  exact ⟨hlabels.trans (by decide), hcircle⟩

end TagData

end ImageDiscovery
