import ImageDiscovery.Proofs.Client.Pages

/-!
# Fallback — what plain text adds to a walk

A fetch that succeeds over HTTPS is not touched by the permission to ask in plain text, and one that
fails may succeed with it.  So with that permission a walk finds what it found without it, or something
at a more specific namespace.  The requests in plain text go to the server that answered over HTTPS in
the end, so they can be made; only a misuse of their connections could end the walk before that.
-/

namespace ImageDiscovery

open Fetch

namespace Allowance

/-- The same allowance, with plain text allowed as well. -/
def withPlaintext (a : Allowance) : Allowance := ⟨a.bits ||| 2⟩

variable (a : Allowance)

@[simp] theorem plaintext_withPlaintext : a.withPlaintext.plaintext = true := by
  rw [withPlaintext, plaintext, Nat.testBit_or, show Nat.testBit 2 1 = true by decide, Bool.or_true]

@[simp] theorem unverified_withPlaintext : a.withPlaintext.unverified = a.unverified := by
  rw [withPlaintext, unverified, Nat.testBit_or, show Nat.testBit 2 0 = false by decide,
    Bool.or_false, unverified]

end Allowance

/-- Is a place more specific than another one, that is, does it go on behind it with a slash? -/
def Text.isBeneath (place other : Text) : Bool :=
  List.isPrefixOf (other ++ [.char '/']) place

theorem Text.isBeneath_iff {place other : Text} :
    place.isBeneath other = true ↔ other ++ [.char '/'] <+: place :=
  List.isPrefixOf_iff_prefix

/-- What is beneath a place is longer. -/
theorem Text.not_isBeneath_of_length_le {place other : Text} (h : place.length ≤ other.length) :
    place.isBeneath other = false := by
  rw [← Bool.not_eq_true, isBeneath_iff]
  intro hprefix
  have hle := hprefix.length_le
  rw [List.length_append, List.length_singleton] at hle
  omega

namespace Walk

variable {source : PageSource} {app : App} {kind : Kind} {found : Found kind}

/-- The attempts of a walk are for the namespaces beneath the one where it stopped, in their order. -/
theorem StopsAt.places_eq (h : StopsAt source app kind found) :
    found.attempts.map Attempt.place = app.namespaces.filter (·.isBeneath found.place) := by
  rcases h.visited with ⟨rest, hsplit⟩
  have hpairs := app.pairwise_namespaces
  rw [← hsplit, List.append_assoc, List.singleton_append, List.pairwise_append,
    List.pairwise_cons] at hpairs
  rcases hpairs with ⟨-, ⟨hrest, -⟩, hearlier⟩
  rw [← hsplit, List.append_assoc, List.singleton_append, List.filter_append, List.filter_cons]
  have hbefore : (found.attempts.map Attempt.place).filter (·.isBeneath found.place) =
      found.attempts.map Attempt.place :=
    List.filter_eq_self.mpr fun place hmem =>
      Text.isBeneath_iff.mpr (hearlier place hmem _ List.mem_cons_self)
  -- neither the place itself nor what is less specific is beneath it
  have hself : found.place.isBeneath found.place = false :=
    Text.not_isBeneath_of_length_le (Nat.le_refl _)
  have hbehind : rest.filter (·.isBeneath found.place) = [] := by
    rw [List.filter_eq_nil_iff]
    intro place hmem
    have hle := (hrest place hmem).length_le
    rw [List.length_append, List.length_singleton] at hle
    rw [Text.not_isBeneath_of_length_le (by omega)]
    exact Bool.false_ne_true
  rw [hbefore, hself, hbehind, if_neg Bool.false_ne_true, List.append_nil]

/-- A walk that goes on where another one stopped, or stopped at a more specific namespace. -/
structure AsSpecific (app : App) (found found' : Found kind) : Prop where
  place : found'.place = found.place ∨ found'.place.isBeneath found.place = true
  items : found'.place = found.place → found'.items = found.items
  /-- The attempts are for the more specific namespaces, all of them, once each. -/
  attempts : found'.attempts.map Attempt.place =
    app.namespaces.filter (·.isBeneath found'.place)

/-- If whatever comes before the end of a walk can be passed from another source too, or is found
    there, then the walk from that source ends there or before. -/
theorem exists_asSpecific {source' : PageSource} (h : StopsAt source app kind found)
    (hcalm : ∀ attempt ∈ found.attempts, ∀ cause,
      (source' attempt.place).outcome ≠ .error (.breakdown cause))
    (hplace : usable source' app kind found.place = usable source app kind found.place) :
    ∃ found', (walk source' app kind).outcome = .ok found' ∧ AsSpecific app found found' := by
  rcases h.visited with ⟨rest, hsplit⟩
  have hne : usable source' app kind found.place ≠ [] := by
    rw [hplace, ← h.items]
    exact found.items_ne_nil
  have hsome : ∃ place ∈ found.attempts.map Attempt.place ++ [found.place],
      usable source' app kind place ≠ [] :=
    ⟨found.place, List.mem_append_right _ List.mem_cons_self, hne⟩
  rcases exists_first_usable hsome with ⟨earlier, place, more, hvisited, hfirst, hearlier⟩
  -- the first usable place is the last of those visited or comes before it
  have hpasses : ∀ p ∈ earlier, Passes source' app kind p := by
    intro p hp
    refine ⟨?_, hearlier p hp⟩
    have hmem : p ∈ found.attempts.map Attempt.place ++ [found.place] := by
      rw [hvisited]
      exact List.mem_append_left _ hp
    rcases List.mem_append.mp hmem with hmem | hmem
    · rcases List.mem_map.mp hmem with ⟨attempt, hattempt, rfl⟩
      exact hcalm attempt hattempt
    · rw [List.mem_singleton] at hmem
      rw [hmem] at hp
      exact absurd (hearlier _ hp) hne
  have hwhole : app.namespaces = earlier ++ place :: (more ++ rest) := by
    rw [← hsplit, hvisited, List.append_assoc, List.cons_append]
  rcases stopsAt_of_passed hwhole hpasses hfirst with ⟨found', hstops, rfl⟩
  refine ⟨found', hstops.outcome, ?_, ?_, hstops.places_eq⟩
  · have hmem : found'.place ∈ found.attempts.map Attempt.place ++ [found.place] := by
      rw [hvisited]
      exact List.mem_append_right _ List.mem_cons_self
    rcases List.mem_append.mp hmem with hmem | hmem
    · rw [h.places_eq] at hmem
      exact .inr (List.mem_filter.mp hmem).2
    · exact .inl (List.mem_singleton.mp hmem)
  · intro hsame
    rw [hstops.items, hsame, hplace, h.items]

end Walk

/-- Connections for requests in plain text are not misused. -/
def Fetch.NeverMisusedInPlaintext (server : Server) : Prop :=
  ∀ (request : Request) (fault : TransportFault), request.url.scheme = ("http" : Text) →
    server request = .fault fault → fault.isMisuse = false

namespace Client

variable {client : Client} {app : App} {kind : Kind} {allowance : Allowance} {place : Text}

/-! ## One page -/

/-- What plain text makes of a page that was fetched without it: success stays, and so does a
    breakdown; in the place of a failure comes the second attempt. -/
theorem fetchPage_withPlaintext (client : Client) (place : Text) (h : allowance.plaintext = false) :
    (∃ document, (client.attempt (discoveryUrl place "https") "https" !allowance.unverified).outcome =
          .ok document ∧
        (client.fetchPage place allowance).outcome = .ok document ∧
        (client.fetchPage place allowance.withPlaintext).outcome = .ok document) ∨
      (∃ error, (client.fetchPage place allowance).outcome = .error (.expected error) ∧
        (client.fetchPage place allowance.withPlaintext).outcome =
          (client.attempt (discoveryUrl place "https") "http" true).outcome) ∨
      ∃ cause, (client.fetchPage place allowance).outcome = .error (.breakdown cause) ∧
        (client.fetchPage place allowance.withPlaintext).outcome = .error (.breakdown cause) := by
  -- both fetches begin with the same attempt
  have hverified : (!allowance.withPlaintext.unverified) = !allowance.unverified := by
    rw [Allowance.unverified_withPlaintext]
  match hattempt :
      (client.attempt (discoveryUrl place "https") "https" !allowance.unverified).outcome with
  | .ok document =>
    have hdone := hverified ▸ hattempt
    exact .inl ⟨document, rfl, (fetch_of_done hattempt).1, (fetch_of_done hdone).1⟩
  | .error (.expected error) =>
    have hfailed := hverified ▸ hattempt
    exact .inr (.inl ⟨error, (fetch_of_secure hattempt h).1,
      (fetch_of_plaintext hfailed allowance.plaintext_withPlaintext).outcome⟩)
  | .error (.breakdown cause) =>
    have hbroken := hverified ▸ hattempt
    exact .inr (.inr ⟨cause, fetch_of_breakdown hattempt, fetch_of_breakdown hbroken⟩)

theorem usable_withPlaintext {document : Document} (h : allowance.plaintext = false)
    (hpage : (client.fetchPage place allowance).outcome = .ok document) :
    Walk.usable (client.pages allowance.withPlaintext) app kind place =
      Walk.usable (client.pages allowance) app kind place := by
  have hpage' : (client.fetchPage place allowance.withPlaintext).outcome = .ok document := by
    rcases fetchPage_withPlaintext client place h with
      ⟨document', -, hsecure, hplain⟩ | ⟨error, herror, -⟩ | ⟨cause, hcause, -⟩
    · exact hplain.trans (hsecure.symm.trans hpage)
    · exact nomatch hpage.symm.trans herror
    · exact nomatch hpage.symm.trans hcause
  rw [Walk.usable, Walk.usable, pages, pages, hpage, hpage']

/-! ## Requests in plain text -/

/-- A server that answered for one namespace can be asked for any other of them. -/
theorem exists_request_of_namespaces {place place' scheme scheme' target : Text} {u : Url}
    {verified : Bool} {document : Document} (hplace : place ∈ app.namespaces)
    (hs : Url.IsScheme scheme)
    (h : (client.attempt (discoveryUrl place "https") scheme verified).outcome = .ok document)
    (hplace' : place' ∈ app.namespaces) (hs' : Url.IsScheme scheme')
    (hu : Url.Asked (discoveryUrl place' "https") scheme' target u) (verified' : Bool) :
    ∃ headers request, client.headersFor u = .ok headers ∧
      client.request u headers verified' = .ok request ∧ request.url = u := by
  rcases exists_request_of_attempt h with ⟨_, v, headers, r, hv, hheaders, hrequest⟩
  have hserver := onServer_of_discoveryUrl hplace hs hv
  have hserver' := onServer_of_discoveryUrl hplace' hs' hu
  -- the headers are those of the server
  have hheaders' : client.headersFor u = .ok headers := by
    rw [headersFor_congr (hserver'.host.trans hserver.host.symm)
      (hserver'.port.trans hserver.port.symm)]
    exact hheaders
  rcases exists_make?_of_make? (exists_make?_of_request hrequest).2 u verified' with
    ⟨request, hrequest'⟩
  have hrelative : u.isRelative = false :=
    Url.isRelative_eq_false hs' hu (nameable_of_discoveryUrl hplace' hs' hu).1
  exact ⟨headers, request, hheaders', request_of_make? hrelative hrequest', url_of_make? hrequest'⟩

theorem attempt_plaintext_ne_breakdown (hstraight : NeverRedirects client.server)
    (hcalm : NeverMisusedInPlaintext client.server) {place place' : Text} {verified : Bool}
    {document : Document} (hplace : place ∈ app.namespaces)
    (h : (client.attempt (discoveryUrl place "https") "https" verified).outcome = .ok document)
    (hplace' : place' ∈ app.namespaces) (cause : Breakdown) :
    (client.attempt (discoveryUrl place' "https") "http" true).outcome ≠
      .error (.breakdown cause) := by
  by_cases hasked : ∃ target u, Url.Asked (discoveryUrl place' "https") "http" target u
  · rcases hasked with ⟨target, u, hu⟩
    rcases exists_request_of_namespaces hplace Url.isScheme_https h hplace' Url.isScheme_http hu true
      with ⟨headers, request, hheaders, hrequest, rfl⟩
    have hscheme : request.url.scheme = "http" := hu.scheme_eq Url.isScheme_http
    rw [(attempt_of_request Url.isScheme_http hu hheaders hrequest rfl
      (fun fault => hcalm request fault hscheme) hstraight).2]
    cases client.server request with
    | answer status location body =>
      rw [documentFrom]
      split <;> rintro ⟨⟩
    | fault fault => rintro ⟨⟩
  · rcases attempt_of_unreadable client hasked true with ⟨-, _, problem, houtcome⟩
    rw [houtcome]
    rintro ⟨⟩

/-! ## Walks -/

/-- A place that a walk goes past with plain text is one that it goes past without it. -/
theorem passes_of_withPlaintext (h : allowance.plaintext = false)
    (hplace : Walk.Passes (client.pages allowance.withPlaintext) app kind place) :
    Walk.Passes (client.pages allowance) app kind place := by
  rcases fetchPage_withPlaintext client place h with
    ⟨document, -, hpage, -⟩ | ⟨error, herror, -⟩ | ⟨cause, -, hcause⟩
  · refine ⟨fun cause hcause => absurd (hpage.symm.trans hcause) nofun, ?_⟩
    rw [← usable_withPlaintext h hpage]
    exact hplace.inVain
  · refine ⟨fun cause hcause => absurd (herror.symm.trans hcause) nofun, ?_⟩
    rw [Walk.usable, pages, herror]
  · exact absurd hcause (hplace.calm cause)

/-- Up to where a walk stopped without plain text, nothing breaks down with it. -/
theorem pages_withPlaintext_ne_breakdown (hstraight : NeverRedirects client.server)
    (hcalm : NeverMisusedInPlaintext client.server) (h : allowance.plaintext = false)
    {found : Found kind} (hstops : Walk.StopsAt (client.pages allowance) app kind found)
    {document : Document} (hpage : (client.fetchPage found.place allowance).outcome = .ok document)
    {attempt : Attempt} (hattempt : attempt ∈ found.attempts) (cause : Breakdown) :
    (client.fetchPage attempt.place allowance.withPlaintext).outcome ≠
      .error (.breakdown cause) := by
  have hvisited := hstops.visited.subset
  have hlast : found.place ∈ app.namespaces :=
    hvisited (List.mem_append_right _ List.mem_cons_self)
  have hplace : attempt.place ∈ app.namespaces :=
    hvisited (List.mem_append_left _ (List.mem_map_of_mem hattempt))
  rcases fetchPage_withPlaintext client attempt.place h with
    ⟨document', -, -, hplain⟩ | ⟨error, -, hplain⟩ | ⟨cause', hcause, -⟩
  · rw [hplain]
    exact nofun
  · -- the second attempt goes to the server that answered over HTTPS in the end
    rw [hplain]
    rcases fetchPage_withPlaintext client found.place h with
      ⟨document', hanswered, -, -⟩ | ⟨error', herror, -⟩ | ⟨cause', hcause, -⟩
    · exact attempt_plaintext_ne_breakdown hstraight hcalm hlast hanswered hplace cause
    · exact nomatch hpage.symm.trans herror
    · exact nomatch hpage.symm.trans hcause
  · exact absurd hcause ((hstops.explained attempt hattempt).ne_breakdown cause')

/-- **What plain text adds.**  Where servers answer directly, a walk that finds something over HTTPS
    alone finds it with plain text too, or something else at a more specific namespace.  A walk that is
    in vain with plain text is in vain without it. -/
theorem walk_withPlaintext (client : Client) (app : App) (kind : Kind)
    (h : allowance.plaintext = false) :
    (NeverRedirects client.server → NeverMisusedInPlaintext client.server →
        ∀ found, (client.walk app kind allowance).outcome = .ok found →
          ∃ found', (client.walk app kind allowance.withPlaintext).outcome = .ok found' ∧
            Walk.AsSpecific app found found') ∧
      ∀ exhaustion,
        (client.walk app kind allowance.withPlaintext).outcome = .error (.expected exhaustion) →
          ∃ exhaustion',
            (client.walk app kind allowance).outcome = .error (.expected exhaustion') := by
  constructor
  · intro hstraight hcalm found hfound
    have hstops := Walk.stopsAt_of_walk hfound
    have hne : Walk.usable (client.pages allowance) app kind found.place ≠ [] := by
      rw [← hstops.items]
      exact found.items_ne_nil
    rcases Walk.exists_document_of_usable hne with ⟨document, hpage, -⟩
    exact Walk.exists_asSpecific hstops
      (fun _ => pages_withPlaintext_ne_breakdown hstraight hcalm h hstops hpage)
      (usable_withPlaintext h hpage)
  · intro exhaustion hexhausted
    have hpasses : ∀ place ∈ app.namespaces,
        Walk.Passes (client.pages allowance) app kind place :=
      fun place hmem => passes_of_withPlaintext h (Walk.passes_of_exhausted hexhausted place hmem)
    rcases Walk.endsInVain_of_passed hpasses with ⟨attempts, hends⟩
    exact ⟨_, hends.outcome⟩

/-- A site whose page for one image is in plain text, and whose page for all of them is not. -/
def servingBoth : Site :=
  (({} : Site).addDeclarations "example.com" "https"
    [⟨"ac-discovery", "example.com", "https://example.com/{name}.{ext}"⟩]).addDeclarations
    "example.com/a" "http" [⟨"ac-discovery", "example.com/a", "https://example.com/a.{ext}"⟩]

theorem walk_withPlaintext_both :
    let client : Client := { config := { dialTimeout := defaultDialTimeout },
                             server := servingBoth.reply }
    let app : App := ⟨"example.com/a", {}, by decide, by decide⟩
    Allowance.none.plaintext = false ∧ NeverRedirects client.server ∧
      NeverMisusedInPlaintext client.server ∧
      ∃ found found', (client.walk app .images .none).outcome = .ok found ∧
        found.place = "example.com" ∧
        (client.walk app .images Allowance.none.withPlaintext).outcome = .ok found' ∧
        found'.place = "example.com/a" ∧ Walk.AsSpecific app found found' := by
  intro client app
  have hstraight : NeverRedirects client.server :=
    Site.neverRedirects (rfl : servingBoth.detours = {})
  have hcalm : NeverMisusedInPlaintext client.server := by
    intro request fault _ hreply
    exact Site.neverMisused (by simp [servingBoth, Site.addDeclarations, Site.add]) request fault hreply
  have hsecure : ((client.walk app .images .none).outcome.toOption.any fun found =>
      decide (found.place = ("example.com" : Text))) = true := by
    decide +kernel
  have hplain : ((client.walk app .images Allowance.none.withPlaintext).outcome.toOption.any
      fun found => decide (found.place = ("example.com/a" : Text))) = true := by
    decide +kernel
  rcases exists_of_toOption_any hsecure with ⟨found, hfound, hplace⟩
  rcases exists_of_toOption_any hplain with ⟨found₁, hfound₁, hplace₁⟩
  have hnone : Allowance.none.plaintext = false := by decide
  rcases (walk_withPlaintext client app .images hnone).1 hstraight hcalm found hfound with
    ⟨found', hfound', hspecific⟩
  have hsame : found₁ = found' := Except.ok.inj (hfound₁.symm.trans hfound')
  subst hsame
  exact ⟨hnone, hstraight, hcalm, found, found₁, hfound, of_decide_eq_true hplace, hfound₁,
    of_decide_eq_true hplace₁, hspecific⟩

/-- A site with a page over HTTPS, where the connection is misused in plain text. -/
def misusedInPlaintext : Site :=
  (({} : Site).addDeclarations "example.com" "https"
    [⟨"ac-discovery", "example.com", "https://example.com/{name}.{ext}"⟩]).add
    "example.com/a" "http" (.fault ⟨"StreamError", "the stream is closed"⟩)

/-- A misuse of a connection in plain text ends a walk that finds something over HTTPS alone. -/
theorem exists_walk_worse_in_plaintext :
    ¬ ∀ (site : Site) (app : App) (kind : Kind) (allowance : Allowance) (found : Found kind),
      let client : Client := { config := { dialTimeout := defaultDialTimeout }, server := site.reply }
      site.detours = {} → allowance.plaintext = false →
        (client.walk app kind allowance).outcome = .ok found →
          ∃ found', (client.walk app kind allowance.withPlaintext).outcome = .ok found' := by
  intro h
  let client : Client := { config := { dialTimeout := defaultDialTimeout },
                           server := misusedInPlaintext.reply }
  let app : App := ⟨"example.com/a", {}, by decide, by decide⟩
  have hsecure : ((client.walk app .images .none).outcome.toOption.any fun _ => true) = true := by
    decide +kernel
  have hplain : (client.walk app .images Allowance.none.withPlaintext).outcome.toOption.isSome =
      false := by
    decide +kernel
  rcases exists_of_toOption_any hsecure with ⟨found, hfound, -⟩
  rcases h misusedInPlaintext app .images .none found rfl (by decide) hfound with
    ⟨found', hfound'⟩
  rw [show (client.walk app .images Allowance.none.withPlaintext).outcome = _ from hfound'] at hplain
  exact nomatch hplain

end Client

end ImageDiscovery
