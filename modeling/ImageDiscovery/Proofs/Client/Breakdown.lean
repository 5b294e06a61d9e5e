import ImageDiscovery.Proofs.Client.Pages

/-!
# Breakdowns — when a client fails in a way that nobody expects

A client fails as its callers expect unless an answer cannot be received or leads to a place that cannot
be read, or a URL that it asks for has a host without a name.  The pages of namespaces are on hosts that
have names, so walks break down by answers only.
-/

namespace ImageDiscovery

open Fetch

namespace Client

variable {client : Client} {allowance : Allowance}

/-! ## Fetches -/

/-- Whatever a text names under a scheme is on a host with a name. -/
def NamesHosts (t : Text) : Prop :=
  ∀ (scheme target : Text) (u : Url), scheme = "https" ∨ scheme = "http" →
    Url.Asked t scheme target u → u.Nameable

theorem request_ne_breakdown (hascii : client.AsciiHeaders) {configured : Mapping Text}
    (hconfigured : ∀ header ∈ configured.toList, header.1.isAscii = true ∧ header.2.isAscii = true)
    (u : Url) (verified : Bool) (cause : Breakdown) :
    client.request u configured verified ≠ .error (.breakdown cause) := by
  have hmade : ∀ url,
      (Request.make? url client.config.userAgent configured verified).mapError
        (fun what => (.breakdown (.unencodable what) : Failure TransportFault)) ≠
          .error (.breakdown cause) := by
    intro url
    rcases exists_make? hascii hconfigured url verified with ⟨r, hr, -⟩
    rw [hr]
    exact nofun
  unfold request
  split
  · -- a URL without a server may be read no more, which is expected
    cases u.localPart with
    | error problem => exact nofun
    | ok url => exact hmade url
  · exact hmade u

theorem breaksOnlyAt_ask (hascii : client.AsciiHeaders) {u : Url} (hu : u.Nameable) (target : Text)
    (verified : Bool) : (client.ask target u verified).BreaksOnlyAt (Hazard client.server) := by
  rcases exists_headersFor hascii hu with ⟨headers, hheaders, hconfigured⟩
  rw [ask_of_headersFor hheaders]
  apply Run.breaksOnlyAt_told_bind
  apply Run.breaksOnlyAt_ofExcept_bind (request_ne_breakdown hascii hconfigured u verified)
  exact fun r _ => breaksOnlyAt_exchange _ _ r

theorem breaksOnlyAt_documentOf (hazard : Request → Prop) (target : Text) (answer : Answer) :
    (documentOf target answer).BreaksOnlyAt hazard := by
  unfold documentOf
  split
  · exact Run.breaksOnlyAt_pure _
  · exact Run.breaksOnlyAt_fail _

theorem breaksOnlyAt_attempt (hascii : client.AsciiHeaders) {t scheme : Text}
    (ht : ∀ target u, Url.Asked t scheme target u → u.Nameable) (verified : Bool) :
    (client.attempt t scheme verified).BreaksOnlyAt (Hazard client.server) := by
  have hexpected : ∀ {α : Type} (x : Except Url.Problem α) (f : Url.Problem → FetchError) cause,
      x.mapError (fun problem => Failure.expected (f problem)) ≠ .error (.breakdown cause) := by
    intro α x f cause
    cases x <;> exact nofun
  apply Run.breaksOnlyAt_ofExcept_bind (hexpected _ _)
  intro target htarget
  apply Run.breaksOnlyAt_ofExcept_bind (hexpected _ _)
  intro u hu
  have hname := ht target u ⟨eq_ok_of_mapError_eq_ok htarget, eq_ok_of_mapError_eq_ok hu⟩
  apply Run.breaksOnlyAt_bind
  · exact Run.breaksOnlyAt_mapError (breaksOnlyAt_ask hascii hname target verified) _
  · exact fun answer _ => breaksOnlyAt_documentOf _ target answer

theorem breaksOnlyAt_fetch (hascii : client.AsciiHeaders) {t : Text} (ht : NamesHosts t)
    (allowance : Allowance) : (client.fetch t allowance).BreaksOnlyAt (Hazard client.server) := by
  apply Run.breaksOnlyAt_either
  · exact breaksOnlyAt_attempt hascii (fun target u => ht _ target u (.inl rfl)) _
  · intro error _
    split
    · apply Run.breaksOnlyAt_told_bind
      exact breaksOnlyAt_attempt hascii (fun target u => ht _ target u (.inr rfl)) _
    · exact Run.breaksOnlyAt_fail _
  · exact fun document _ => Run.breaksOnlyAt_pure _

end Client

/-! ## Walks and resolutions -/

theorem Walk.breaksOnlyAt_visit {hazard : Request → Prop} {source : PageSource} (app : App)
    (kind : Kind) (attempts : List Attempt) {places : List Text}
    (h : ∀ place ∈ places, (source place).BreaksOnlyAt hazard) :
    (visit source app kind attempts places).BreaksOnlyAt hazard := by
  induction places generalizing attempts with
  | nil =>
    apply Run.breaksOnlyAt_told_bind
    exact Run.breaksOnlyAt_fail _
  | cons place rest ih =>
    rw [List.forall_mem_cons] at h
    rw [visit]
    apply Run.breaksOnlyAt_either h.1
    · intro error _
      apply Run.breaksOnlyAt_told_bind
      exact ih _ h.2
    · intro document _
      dsimp only
      split
      · apply Run.breaksOnlyAt_told_bind
        exact ih _ h.2
      · apply Run.breaksOnlyAt_told_bind
        exact Run.breaksOnlyAt_pure _

namespace Client

variable {client : Client} {allowance : Allowance}

theorem breaksOnlyAt_walk (hascii : client.AsciiHeaders) (app : App) (kind : Kind)
    (allowance : Allowance) :
    (client.walk app kind allowance).BreaksOnlyAt (Hazard client.server) := by
  apply Walk.breaksOnlyAt_visit
  intro place h
  -- the pages of namespaces are on hosts with names
  apply breaksOnlyAt_fetch hascii
  intro scheme target u hscheme hu
  exact (nameable_of_discoveryUrl h (Url.isScheme_of_eq hscheme) hu).2

theorem breaksOnlyAt_fetchTagData (hascii : client.AsciiHeaders) {document : Endpoint}
    (h : NamesHosts document.artifact) (allowance : Allowance) :
    (client.fetchTagData document allowance).BreaksOnlyAt (Hazard client.server) := by
  apply Run.breaksOnlyAt_bind
  · exact Run.breaksOnlyAt_mapError (breaksOnlyAt_fetch hascii h allowance) _
  · intro fetched _
    split
    · exact Run.breaksOnlyAt_fail _
    · apply Run.breaksOnlyAt_told_bind
      exact Run.breaksOnlyAt_pure _

theorem breaksOnlyAt_resolveTag (hascii : client.AsciiHeaders) {app : App}
    (h : ∀ found, (client.walk app .tags allowance).outcome = .ok found →
      NamesHosts found.first.artifact) (given : Option Text) :
    (client.resolveTag app given allowance).BreaksOnlyAt (Hazard client.server) := by
  rw [resolveTag]
  split
  · exact Run.breaksOnlyAt_pure _
  · apply Run.breaksOnlyAt_bind
    · apply Run.breaksOnlyAt_either (breaksOnlyAt_walk hascii app .tags allowance)
      · intro exhaustion _
        apply Run.breaksOnlyAt_told_bind
        exact Run.breaksOnlyAt_pure _
      · intro found hfound
        apply Run.breaksOnlyAt_bind (breaksOnlyAt_fetchTagData hascii (h found hfound) allowance)
        exact fun data _ => Run.breaksOnlyAt_pure _
    · intro found _
      apply Run.breaksOnlyAt_ofExcept_bind
      -- merging a tag fails as expected at most
      · intro cause hmerged
        cases hlabels : mergedApp app (found.2.map Prod.snd) _ <;> rw [hlabels] at hmerged <;>
          cases hmerged
      · intro merged _
        apply Run.breaksOnlyAt_told_bind
        exact Run.breaksOnlyAt_pure _

theorem breaksOnlyAt_resolve (hascii : client.AsciiHeaders) {app : App}
    (h : ∀ found, (client.walk app .tags allowance).outcome = .ok found →
      NamesHosts found.first.artifact) (given : Option Text) :
    (client.resolve app given allowance).BreaksOnlyAt (Hazard client.server) := by
  apply Run.breaksOnlyAt_bind (breaksOnlyAt_resolveTag hascii h given)
  intro tagged _
  apply Run.breaksOnlyAt_bind
  · exact Run.breaksOnlyAt_mapError (breaksOnlyAt_walk hascii tagged.app .images allowance) _
  · intro images _
    apply Run.breaksOnlyAt_bind
    · apply Run.breaksOnlyAt_either (breaksOnlyAt_walk hascii tagged.app .keys allowance)
      · intro exhaustion _
        apply Run.breaksOnlyAt_told_bind
        exact Run.breaksOnlyAt_pure _
      · exact fun found _ => Run.breaksOnlyAt_pure _
    · exact fun keys _ => Run.breaksOnlyAt_pure _

/-! ## Whatever a client is told to do -/

/-- A failure that nobody expects. -/
def Operation.BreaksDown (client : Client) (allowance : Allowance) : Operation → Prop
  | .fetch url => ∃ cause, (client.fetch url allowance).outcome = .error (.breakdown cause)
  | .fetchPage place => ∃ cause, (client.fetchPage place allowance).outcome = .error (.breakdown cause)
  | .walk app kind => ∃ cause, (client.walk app kind allowance).outcome = .error (.breakdown cause)
  | .fetchTagData document =>
    ∃ cause, (client.fetchTagData document allowance).outcome = .error (.breakdown cause)
  | .resolve app tag => ∃ cause, (client.resolve app tag allowance).outcome = .error (.breakdown cause)

/-- What a client fetches besides the pages of namespaces. -/
def Operation.texts (client : Client) (allowance : Allowance) : Operation → List Text
  | .fetch url => [url]
  | .fetchPage place => [discoveryUrl place "https"]
  | .walk _ _ => []
  | .fetchTagData document => [document.artifact]
  | .resolve app _ =>
    match (client.walk app .tags allowance).outcome with
    | .ok found => [found.first.artifact]
    | .error _ => []

/-- **Where clients break down.**  As long as the hosts of what it fetches have names, a client fails in
    a way that nobody expects exactly if the answer to one of its requests cannot be received or leads to
    a place that cannot be read. -/
theorem Operation.breaksDown_iff (hascii : client.AsciiHeaders) (operation : Operation)
    (h : ∀ t ∈ operation.texts client allowance, NamesHosts t) :
    operation.BreaksDown client allowance ↔
      ∃ r ∈ operation.requests client allowance, Hazard client.server r := by
  cases operation with
  | fetch url => exact breaksOnlyAt_fetch hascii (h url List.mem_cons_self) allowance
  | fetchPage place => exact breaksOnlyAt_fetch hascii (h _ List.mem_cons_self) allowance
  | walk app kind => exact breaksOnlyAt_walk hascii app kind allowance
  | fetchTagData document =>
    exact breaksOnlyAt_fetchTagData hascii (h _ List.mem_cons_self) allowance
  | resolve app tag =>
    -- only a document of tag data is fetched from elsewhere
    apply breaksOnlyAt_resolve hascii
    intro found hfound
    apply h
    rw [texts, hfound]
    exact List.mem_cons_self

/-- A site that sends its readers to a host without a name. -/
def sendingNowhere : Site :=
  ({} : Site).addDetour "https://example.com/a" ⟨302, some "https://xn--/"⟩

theorem Operation.breaksDown_iff_redirect :
    let client : Client := { config := { dialTimeout := defaultDialTimeout },
                             server := sendingNowhere.reply }
    let operation : Operation := .fetch "https://example.com/a"
    client.AsciiHeaders ∧ (∀ t ∈ operation.texts client .none, NamesHosts t) ∧
      ∃ r ∈ operation.requests client .none, Hazard client.server r := by
  intro client operation
  have hascii : client.AsciiHeaders := asciiHeaders_default _
  have hnames : ∀ t ∈ operation.texts client .none, NamesHosts t := by
    intro t ht scheme target u hscheme hu
    rw [List.mem_singleton.mp ht] at hu
    have hread : ∀ place v, Url.replaceScheme "https://example.com/a" scheme = .ok place →
        Url.parse place = .ok v → v.Nameable → u.Nameable := by
      intro place v hplace hv hname
      have htarget := Except.ok.inj (hplace.symm.trans hu.replaced)
      rw [htarget, hu.parsed] at hv
      rw [Except.ok.inj hv]
      exact hname
    rcases hscheme with rfl | rfl
    · exact hread "https://example.com/a" ⟨"https", [], "example.com", none, "/a", none, none⟩
        (by decide) (by decide) ⟨by decide, _, rfl⟩
    · exact hread "http://example.com/a" ⟨"http", [], "example.com", none, "/a", none, none⟩
        (by decide) (by decide) ⟨by decide, _, rfl⟩
  have hbreaks : (match (client.fetch "https://example.com/a" .none).outcome with
      | .error (.breakdown _) => true
      | _ => false) = true := by
    decide +kernel
  refine ⟨hascii, hnames, (Operation.breaksDown_iff hascii operation hnames).mp ?_⟩
  show ∃ cause, (client.fetch "https://example.com/a" .none).outcome = .error (.breakdown cause)
  split at hbreaks
  · rename_i cause hcause
    exact ⟨cause, hcause⟩
  · exact nomatch hbreaks

/-! ## Hosts without names -/

variable (client) in
theorem headersFor_of_not_nameable {u : Url} (h : ¬ u.Nameable) :
    ∃ cause, client.headersFor u = .error cause := by
  cases hnetloc : u.netloc.notAscii with
  | some what =>
    rw [headersFor, hnetloc]
    exact ⟨_, rfl⟩
  | none =>
    cases hname : u.hostName with
    | error problem =>
      rw [headersFor, hnetloc, hname]
      exact ⟨_, rfl⟩
    | ok name =>
      refine absurd ⟨?_, name, hname⟩ h
      -- the host is in what is ASCII
      have hpoints := Text.refused_eq_none_iff.mp hnetloc
      rw [Text.isAscii, List.all_eq_true]
      intro p hp
      apply hpoints
      rw [Url.netloc_eq, Url.hostText]
      apply List.mem_append_left
      split
      · exact .tail _ (List.mem_append_left _ hp)
      · exact hp

/-- A URL whose host has no name is not asked for, and the client breaks down. -/
theorem fetch_of_not_nameable {t target : Text} {u : Url} (hu : Url.Asked t "https" target u)
    (h : ¬ u.Nameable) (allowance : Allowance) :
    (client.fetch t allowance).requests = [] ∧
      ∃ cause, (client.fetch t allowance).outcome = .error (.breakdown cause) := by
  rcases headersFor_of_not_nameable client h with ⟨cause, hheaders⟩
  have hattempt : client.attempt t "https" (!allowance.unverified) = .breakdown cause := by
    rw [attempt_of_asked hu, ask, hheaders]
    rfl
  rw [fetch, hattempt]
  exact ⟨rfl, cause, rfl⟩

/-- A text from elsewhere may name a host without a name. -/
theorem exists_fetch_breaks_down :
    ¬ ∀ (site : Site) (t : Text) (allowance : Allowance),
      let client : Client := { config := { dialTimeout := defaultDialTimeout }, server := site.reply }
      ¬ (Operation.fetch t).BreaksDown client allowance := by
  intro h
  let u : Url := ⟨"https", [], "xn--", none, "/", none, none⟩
  have hu : Url.Asked "https://xn--/" "https" "https://xn--/" u := ⟨by decide, by decide⟩
  have hname : ¬ u.Nameable := by
    rintro ⟨-, name, hname⟩
    have hnone : u.hostName.toOption.isSome = false := by decide +kernel
    rw [hname] at hnone
    exact nomatch hnone
  exact h {} "https://xn--/" .none (fetch_of_not_nameable hu hname .none).2

end Client

end ImageDiscovery
