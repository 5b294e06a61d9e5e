import ImageDiscovery.Proofs.Url.Hidden

/-!
# Recomposed — parts that are written and cut again

An address with a server can be cut into parts, another server can be put in the place of its own, and
what is written then is cut into the same parts again, if the new server may be one.  Marks with nothing
behind them are not written, and nothing is cut off there.
-/

namespace ImageDiscovery

namespace LooseUrl

open Url (IsScheme endsServer upTo upTo_append cutLast cutLast_append cutLast_of_not_mem)

variable {scheme rest before first last part t server : Text} {mark : Char} {u : LooseUrl}

/-! ## Marks -/

theorem cut_marked (h : CodePoint.char mark ∉ before) (part : Text) :
    ∃ after, Text.cut (.char mark) (before ++ marked mark part) = (before, after) ∧
      after.getD [] = part := by
  unfold marked
  by_cases hempty : part.isEmpty = true
  · rw [if_pos hempty, List.append_nil]
    exact ⟨none, Text.cut_of_not_mem h, (List.isEmpty_iff.mp hempty).symm⟩
  · rw [if_neg hempty]
    exact ⟨some part, Text.cut_append h part, rfl⟩

theorem of_mem_marked {p : CodePoint} (h : p ∈ marked mark part) : p = .char mark ∨ p ∈ part := by
  unfold marked at h
  split at h
  · exact nomatch h
  · exact List.mem_cons.mp h

theorem prefix_of_cut (sep : CodePoint) (t : Text) : (t.cut sep).1 <+: t := by
  cases hcut : t.cut sep with
  | mk before after =>
    cases after with
    | none =>
      exact (Text.cut_eq_none hcut).1 ▸ List.prefix_rfl
    | some after =>
      rw [(Text.cut_eq_some hcut).1]
      exact List.prefix_append _ _

theorem not_mem_fst_cut (sep : CodePoint) (t : Text) : sep ∉ (t.cut sep).1 := by
  cases hcut : t.cut sep with
  | mk before after =>
    cases after with
    | none =>
      rcases Text.cut_eq_none hcut with ⟨rfl, hnot⟩
      exact hnot
    | some after => exact (Text.cut_eq_some hcut).2

theorem mem_of_mem_snd_cut {sep p : CodePoint} (h : p ∈ (t.cut sep).2.getD []) : p ∈ t := by
  cases hcut : t.cut sep with
  | mk before after =>
    rw [hcut] at h
    cases after with
    | none => exact nomatch h
    | some after =>
      rw [(Text.cut_eq_some hcut).1]
      exact List.mem_append_right _ (.tail _ h)

/-! ## Parameters -/

/-- The path up to its last segment: nothing, or up to a slash. -/
def IsDirectory (t : Text) : Prop := t = [] ∨ ∃ before, t = before ++ [.char '/']

theorem cutParams_append (hbefore : IsDirectory before) (hfirst : CodePoint.char '/' ∉ first)
    (hlast : CodePoint.char '/' ∉ last) (hmark : CodePoint.char ';' ∉ first) :
    cutParams (before ++ (first ++ marked ';' last)) = (before ++ first, last) := by
  have hslash : CodePoint.char '/' ∉ first ++ marked ';' last := by
    intro hmem
    rcases List.mem_append.mp hmem with hmem | hmem
    · exact hfirst hmem
    · rcases of_mem_marked hmem with hmem | hmem
      · exact nomatch hmem
      · exact hlast hmem
  rcases cut_marked hmark last with ⟨after, hcut, hafter⟩
  unfold cutParams
  rcases hbefore with rfl | ⟨before, rfl⟩
  · have hnone : ¬ (first ++ marked ';' last).contains (.char '/') = true := by
      rw [List.contains_iff_mem]
      exact hslash
    rw [List.nil_append, if_neg hnone]
    dsimp only
    rw [hcut, hafter]
  · have hsome : (before ++ [CodePoint.char '/'] ++ (first ++ marked ';' last)).contains (.char '/') = true := by
      rw [List.contains_iff_mem]
      simp
    have hsplit : cutLast (.char '/') (before ++ [.char '/'] ++ (first ++ marked ';' last)) =
        (before, first ++ marked ';' last) := by
      rw [List.append_assoc, List.singleton_append]
      exact cutLast_append hslash before
    rw [if_pos hsome, hsplit]
    dsimp only
    rw [hcut, hafter]

/-- What is cut into a path and parameters. -/
theorem exists_cutParams (t : Text) :
    ∃ before first last, cutParams t = (before ++ first, last) ∧ IsDirectory before ∧
      CodePoint.char '/' ∉ first ∧ CodePoint.char '/' ∉ last ∧ CodePoint.char ';' ∉ first ∧
      before ++ (first ++ marked ';' last) <+: t := by
  have hsegment : ∀ before segment, CodePoint.char '/' ∉ segment → t = before ++ segment →
      IsDirectory before → cutParams t = (before ++ (Text.cut (.char ';') segment).1,
        (Text.cut (.char ';') segment).2.getD []) →
      ∃ before first last, cutParams t = (before ++ first, last) ∧ IsDirectory before ∧
        CodePoint.char '/' ∉ first ∧ CodePoint.char '/' ∉ last ∧ CodePoint.char ';' ∉ first ∧
        before ++ (first ++ marked ';' last) <+: t := by
    intro before segment hslash ht hbefore hparams
    refine ⟨before, _, _, hparams, hbefore, ?_, ?_, not_mem_fst_cut _ _, ?_⟩
    · exact fun hmem => hslash (Text.mem_of_mem_fst_cut hmem)
    · exact fun hmem => hslash (mem_of_mem_snd_cut hmem)
    · rw [ht, List.prefix_append_right_inj]
      cases hcut : Text.cut (.char ';') segment with
      | mk first last =>
        cases last with
        | none =>
          rw [(Text.cut_eq_none hcut).1]
          exact (List.append_nil segment).symm ▸ List.prefix_rfl
        | some last =>
          rw [(Text.cut_eq_some hcut).1, List.prefix_append_right_inj]
          unfold marked
          split
          · exact List.nil_prefix
          · exact List.prefix_rfl
  by_cases hslash : t.contains (.char '/') = true
  · cases hcut : cutLast (.char '/') t with
    | mk before segment =>
      rcases Url.eq_of_cutLast hcut with ⟨hnot, hsplit⟩
      have ht : t = before ++ .char '/' :: segment := by
        rcases hsplit with ⟨heq, -⟩ | heq
        · rw [heq] at hslash
          exact absurd (List.contains_iff_mem.mp hslash) hnot
        · exact heq
      apply hsegment (before ++ [.char '/']) segment hnot
      · rw [ht, List.append_assoc]
        rfl
      · exact .inr ⟨before, rfl⟩
      · unfold cutParams
        rw [if_pos hslash, hcut]
  · apply hsegment [] t
    · rwa [List.contains_iff_mem] at hslash
    · rfl
    · exact .inl rfl
    · unfold cutParams
      rw [if_neg hslash]

/-! ## Behind a server -/

/-- A path with its parameters. -/
def pathText (u : LooseUrl) : Text := u.path ++ marked ';' u.params

/-- What is written behind a server. -/
def behindText (u : LooseUrl) : Text := u.pathText ++ (marked '?' u.query ++ marked '#' u.fragment)

theorem IsBehind.beginning {s : Text} (h : IsBehind t) (hs : s <+: t) : IsBehind s := by
  rcases hs with ⟨rest, rfl⟩
  cases s with
  | nil => exact nofun
  | cons p s => exact h

/-- The path and its parameters, as they are cut from what stands in front of a query. -/
theorem pathText_behindServer (scheme rest : Text) :
    let u := behindServer scheme rest
    let path := (Text.cut (.char '?') (Text.cut (.char '#') rest).1).1
    u.pathText <+: path ∧
      (if scheme ∈ paramSchemes then cutParams u.pathText else (u.pathText, [])) = (u.path, u.params) := by
  intro u path
  by_cases hscheme : scheme ∈ paramSchemes
  · rcases exists_cutParams path with ⟨before, first, last, hcut, hbefore, hfirst, hlast, hmark, hle⟩
    have hpath : u.path = before ++ first := by
      show (if scheme ∈ paramSchemes then cutParams path else (path, [])).1 = _
      rw [if_pos hscheme, hcut]
    have hparams : u.params = last := by
      show (if scheme ∈ paramSchemes then cutParams path else (path, [])).2 = _
      rw [if_pos hscheme, hcut]
    have htext : u.pathText = before ++ (first ++ marked ';' last) := by
      rw [pathText, hpath, hparams, List.append_assoc]
    rw [if_pos hscheme, htext, hpath, hparams]
    exact ⟨hle, cutParams_append hbefore hfirst hlast hmark⟩
  · have hpath : u.path = path := by
      show (if scheme ∈ paramSchemes then cutParams path else (path, [])).1 = _
      rw [if_neg hscheme]
    have hparams : u.params = [] := by
      show (if scheme ∈ paramSchemes then cutParams path else (path, [])).2 = _
      rw [if_neg hscheme]
    have htext : u.pathText = path := by
      rw [pathText, hpath, hparams]
      exact List.append_nil path
    rw [if_neg hscheme, htext, hpath, hparams]
    exact ⟨List.prefix_rfl, rfl⟩

theorem of_mem_behindText {p : CodePoint} (h : p ∈ (behindServer scheme rest).behindText) :
    p ∈ rest ∨ p = .char '?' ∨ p = .char '#' := by
  have hfront : ∀ {q}, q ∈ (Text.cut (.char '#') rest).1 → q ∈ rest := fun hq =>
    (prefix_of_cut _ _).subset hq
  rw [behindText, List.mem_append, List.mem_append] at h
  rcases h with hp | hp | hp
  · have hpath := (pathText_behindServer scheme rest).1.subset hp
    exact .inl (hfront ((prefix_of_cut _ _).subset hpath))
  · rcases of_mem_marked hp with rfl | hp
    · exact .inr (.inl rfl)
    · exact .inl (hfront (mem_of_mem_snd_cut hp))
  · rcases of_mem_marked hp with rfl | hp
    · exact .inr (.inr rfl)
    · exact .inl (mem_of_mem_snd_cut hp)

/-- What is written behind a server is cut into the parts that it is written from. -/
theorem behindServer_behindText (scheme rest : Text) :
    behindServer scheme (behindServer scheme rest).behindText = behindServer scheme rest := by
  rcases pathText_behindServer scheme rest with ⟨hle, hcut⟩
  generalize hu : behindServer scheme rest = u at hle hcut ⊢
  have hquery : CodePoint.char '?' ∉ u.pathText := fun hmem =>
    not_mem_fst_cut _ _ (hle.subset hmem)
  have hsign : CodePoint.char '#' ∉ u.pathText := fun hmem =>
    not_mem_fst_cut _ _ ((prefix_of_cut _ _).subset (hle.subset hmem))
  have hfront : CodePoint.char '#' ∉ u.pathText ++ marked '?' u.query := by
    intro hmem
    rcases List.mem_append.mp hmem with hmem | hmem
    · exact hsign hmem
    · rcases of_mem_marked hmem with hmem | hmem
      · exact nomatch hmem
      · -- a query stands in front of the sign
        rw [← hu] at hmem
        exact not_mem_fst_cut (.char '#') rest (mem_of_mem_snd_cut hmem)
  have hscheme : u.scheme = scheme := by rw [← hu]; rfl
  have hnetloc : u.netloc = [] := by rw [← hu]; rfl
  rcases cut_marked hfront u.fragment with ⟨fragment, hfragment, hfragmentEq⟩
  rcases cut_marked hquery u.query with ⟨query, hcutQuery, hqueryEq⟩
  unfold behindServer behindText
  rw [← List.append_assoc, hfragment]
  dsimp only
  rw [hcutQuery]
  dsimp only
  rw [hcut, hfragmentEq, hqueryEq]
  cases u
  cases hscheme
  cases hnetloc
  rfl

/-! ## Whole addresses -/

/-- The server behind a scheme, if there is one, and the rest. -/
def cutServer : Text → Text × Text
  | .char '/' :: .char '/' :: rest => upTo endsServer rest
  | rest => ([], rest)

/-- What is read behind a scheme. -/
def ofRest (scheme rest : Text) : Except Problem LooseUrl :=
  let server := cutServer rest
  match checkNetloc server.1 with
  | some problem => .error problem
  | none => .ok { behindServer scheme server.2 with netloc := server.1 }

theorem parse_eq_ofRest (t : Text) :
    parse t [] =
      let cut := (cutScheme? (cleaned t)).getD ([], cleaned t)
      ofRest cut.1 cut.2 := rfl

/-- What is cut off as a scheme, or the text without one. -/
theorem of_cutScheme? (t : Text) :
    let cut := (cutScheme? (cleaned t)).getD ([], cleaned t)
    (cut.1 = [] ∨ IsScheme cut.1) ∧ ∀ p ∈ cut.2, isUnbroken p = true := by
  have hunbroken : ∀ p ∈ cleaned t, isUnbroken p = true := fun p hp => (List.mem_filter.mp hp).2
  intro cut
  cases hcut : cutScheme? (cleaned t) with
  | none =>
    have hnone : cut = ([], cleaned t) := by simp only [cut, hcut, Option.getD_none]
    rw [hnone]
    exact ⟨.inl rfl, hunbroken⟩
  | some found =>
    have hsome : cut = found := by simp only [cut, hcut, Option.getD_some]
    rw [hsome]
    unfold cutScheme? at hcut
    split at hcut
    · rename_i before rest hcolon
      split at hcut
      · rename_i hletters
        rw [Bool.and_eq_true] at hletters
        rw [← Option.some.inj hcut]
        refine ⟨.inr (.asciiLower hletters.1 hletters.2), fun p hp => hunbroken p ?_⟩
        rw [(Text.cut_eq_some hcolon).1]
        exact List.mem_append_right _ (.tail _ hp)
      · exact nomatch hcut
    · exact nomatch hcut

/-- An address with a server, and what stands behind the server. -/
structure HasServer (u : LooseUrl) (rest : Text) : Prop where
  scheme : u.scheme = [] ∨ IsScheme u.scheme
  named : u.netloc ≠ []
  netloc : ∀ p ∈ u.netloc, endsServer p = false ∧ isUnbroken p = true
  fits : checkNetloc u.netloc = none
  unbroken : ∀ p ∈ rest, isUnbroken p = true
  behind : IsBehind rest
  parts : u = { behindServer u.scheme rest with netloc := u.netloc }

theorem exists_hasServer (h : parse t [] = .ok u) (hnamed : u.netloc ≠ []) : ∃ rest, HasServer u rest := by
  have hcut := of_cutScheme? t
  rw [parse_eq_ofRest] at h
  dsimp only at h hcut
  generalize (cutScheme? (cleaned t)).getD ([], cleaned t) = cut at h hcut
  rcases cut with ⟨scheme, rest⟩
  rcases hcut with ⟨hscheme, hunbroken⟩
  unfold ofRest at h
  dsimp only at h hunbroken
  split at h
  · exact nomatch h
  · rename_i hfits
    obtain rfl := Except.ok.inj h
    -- there is a server, so two slashes stand in front of it
    have hserver : ∃ after, rest = .char '/' :: .char '/' :: after ∧
        cutServer rest = upTo endsServer after := by
      unfold cutServer at hnamed ⊢
      split
      · exact ⟨_, rfl, rfl⟩
      · rename_i hnone
        split at hnamed
        · exact absurd rfl (hnone _)
        · exact absurd rfl hnamed
    rcases hserver with ⟨after, rfl, hcut⟩
    rw [hcut] at hnamed hfits ⊢
    refine ⟨(upTo endsServer after).2, hscheme, hnamed, ?_, hfits, ?_, Url.of_head?_snd_upTo, rfl⟩
    · intro p hp
      have hpoint := Url.of_mem_fst_upTo hp
      exact ⟨hpoint.2, hunbroken p (.tail _ (.tail _ hpoint.1))⟩
    · intro p hp
      exact hunbroken p (.tail _ (.tail _ ((List.dropWhile_sublist _).subset hp)))

/-- The scheme of an address with its colon, if there is one. -/
def schemeText (scheme : Text) : Text := if scheme.isEmpty then [] else scheme ++ [.char ':']

theorem parse_schemeText (hs : scheme = [] ∨ IsScheme scheme) (rest : Text) :
    parse (schemeText scheme ++ .char '/' :: .char '/' :: rest) [] =
      ofRest scheme (.char '/' :: .char '/' :: rest.filter isUnbroken) := by
  rcases hs with rfl | hs
  · have hclean : cleaned (.char '/' :: .char '/' :: rest) =
        .char '/' :: .char '/' :: rest.filter isUnbroken := by
      rw [cleaned, List.dropWhile_cons_of_neg (by decide), List.filter_cons_of_pos (by decide),
        List.filter_cons_of_pos (by decide)]
      rfl
    have hscheme : cutScheme? (.char '/' :: .char '/' :: rest.filter isUnbroken) = none := by
      -- no scheme begins with a slash
      unfold cutScheme?
      split
      · rename_i before after hcut
        have hsplit := (Text.cut_eq_some hcut).1
        cases before with
        | nil => cases hsplit
        | cons p before =>
          rw [List.cons_append, List.cons.injEq] at hsplit
          rw [← hsplit.1]
          rfl
      · rfl
    show parse (.char '/' :: .char '/' :: rest) [] = _
    rw [parse_eq_ofRest, hclean, hscheme]
    rfl
  · have hscheme : schemeText scheme = scheme ++ [.char ':'] := by
      rw [schemeText, if_neg]
      rw [List.isEmpty_iff]
      exact hs.ne_nil
    rw [hscheme, List.append_assoc]
    exact parse_of_server hs rest

/-- What is written of an address with a server. -/
theorem toText_of_netloc (u : LooseUrl) (hserver : server ≠ []) (hpath : rooted u.pathText = u.pathText) :
    toText { u with netloc := server } =
      schemeText u.scheme ++ .char '/' :: .char '/' :: (server ++ u.behindText) := by
  have hplace : (!server.isEmpty || decide (u.scheme ∈ serverSchemes) ||
      List.isPrefixOf (Text.ofString "//") (u.path ++ marked ';' u.params)) = true := by
    simp [hserver]
  unfold toText
  dsimp only
  rw [if_pos hplace]
  have hrooted : (if ((u.path ++ marked ';' u.params).isEmpty ||
      decide ((u.path ++ marked ';' u.params).head? = some (.char '/'))) = true
      then u.path ++ marked ';' u.params else .char '/' :: (u.path ++ marked ';' u.params)) =
      u.path ++ marked ';' u.params := hpath
  rw [hrooted]
  simp only [schemeText, behindText, pathText, List.append_assoc, List.cons_append]

/-- A path behind a server begins with a slash, if there is anything of it. -/
theorem HasServer.rooted_pathText (h : HasServer u rest) : rooted u.pathText = u.pathText := by
  rcases pathText_behindServer u.scheme rest with ⟨hle, -⟩
  have htext : (behindServer u.scheme rest).pathText = u.pathText := by
    rw [h.parts]
    rfl
  rw [htext] at hle
  have hcut := prefix_of_cut (.char '?') (Text.cut (.char '#') rest).1
  have hbehind := h.behind.beginning (hle.trans (hcut.trans (prefix_of_cut _ _)))
  unfold rooted
  cases hpath : u.pathText with
  | nil => rfl
  | cons p path =>
    rw [hpath] at hle hbehind
    have hp : p ∈ (Text.cut (.char '?') (Text.cut (.char '#') rest).1).1 := hle.subset List.mem_cons_self
    have hslash : p = .char '/' := by
      rcases Url.eq_of_endsServer (hbehind p rfl) with rfl | rfl | rfl
      · rfl
      · exact absurd hp (not_mem_fst_cut _ _)
      · exact absurd (hcut.subset hp) (not_mem_fst_cut _ _)
    rw [hslash]
    rfl

theorem HasServer.behindText_eq (h : HasServer u rest) :
    u.behindText = (behindServer u.scheme rest).behindText := by
  rw [h.parts]
  rfl

theorem HasServer.isBehind_behindText (h : HasServer u rest) : IsBehind u.behindText := by
  have hpath := isBehind_rooted u.pathText
  rw [h.rooted_pathText] at hpath
  exact hpath.append ((isBehind_marked (by decide) _).append (isBehind_marked (by decide) _))

theorem HasServer.isUnbroken_behindText (h : HasServer u rest) :
    ∀ p ∈ u.behindText, isUnbroken p = true := by
  intro p hp
  rw [h.behindText_eq] at hp
  rcases of_mem_behindText hp with hp | rfl | rfl
  · exact h.unbroken p hp
  · rfl
  · rfl

/-- **Servers can be replaced.**  If another server is put in the place of that of an address, what is
    written then is cut into the same parts, with that server, or the server may not be one. -/
theorem HasServer.parse_toText (h : HasServer u rest) (hne : server ≠ [])
    (hserver : ∀ p ∈ server, endsServer p = false ∧ isUnbroken p = true) :
    parse (toText { u with netloc := server }) [] =
      match checkNetloc server with
      | some problem => .error problem
      | none => .ok { u with netloc := server } := by
  have hfilter : (server ++ u.behindText).filter isUnbroken = server ++ u.behindText := by
    rw [List.filter_eq_self, List.forall_mem_append]
    exact ⟨fun p hp => (hserver p hp).2, h.isUnbroken_behindText⟩
  have hcut : cutServer (.char '/' :: .char '/' :: (server ++ u.behindText)) = (server, u.behindText) :=
    upTo_append (fun p hp => (hserver p hp).1) h.isBehind_behindText
  have hparts : { behindServer u.scheme u.behindText with netloc := server } =
      { u with netloc := server } := by
    rw [h.behindText_eq, behindServer_behindText]
    exact congrArg (fun w : LooseUrl => { w with netloc := server }) h.parts.symm
  rw [toText_of_netloc u hne h.rooted_pathText, parse_schemeText h.scheme, hfilter, ofRest, hcut, ← hparts]

end LooseUrl

end ImageDiscovery
