import ImageDiscovery.Proofs.Client.Requests
import ImageDiscovery.Proofs.Fetch.Breakdown
import ImageDiscovery.Proofs.Mapping
import ImageDiscovery.Proofs.Url.Replaced

/-!
# Asking — what one attempt needs

A text is asked for under a scheme if it names a document with that scheme.  The request for it needs
headers that can be sent, and a host that headers can name and people can read.  With these an attempt
is one exchange.
-/

namespace ImageDiscovery

open Fetch

theorem Text.notAscii_eq_none {t : Text} (h : t.isAscii = true) : t.notAscii = none :=
  Text.refused_eq_none_iff.mpr (List.all_eq_true.mp h)

namespace Url

/-- What is asked for when a text is fetched under a scheme. -/
structure Asked (t scheme target : Text) (u : Url) : Prop where
  replaced : replaceScheme t scheme = .ok target
  parsed : parse target = .ok u

/-- Headers can name the host of a URL, and people can read it. -/
structure Nameable (u : Url) : Prop where
  ascii : u.host.isAscii = true
  readable : ∃ name, u.hostName = .ok name

variable {t target : Text} {u v : Url}

theorem Nameable.of_host (h : u.Nameable) (heq : u.host = v.host) : v.Nameable := by
  rcases h with ⟨hascii, name, hname⟩
  constructor
  · rw [← heq]
    exact hascii
  · refine ⟨name, ?_⟩
    rw [hostName, heq] at hname
    exact hname

theorem Asked.scheme_eq {scheme : Text} (hs : IsScheme scheme) (h : Asked t scheme target u) :
    u.scheme = scheme :=
  scheme_replaceScheme hs h.replaced h.parsed

theorem isRelative_eq_false {scheme : Text} (hs : IsScheme scheme) (h : Asked t scheme target u)
    (hhost : u.host ≠ []) : u.isRelative = false := by
  rw [isRelative, h.scheme_eq hs]
  simp [hs.ne_nil, hhost]

theorem tellsKind_toText (hs : IsScheme u.scheme) : tellsKind u.toText = true := by
  rcases exists_toText_eq hs.ne_nil with ⟨rest, htext⟩
  have hfree : ∀ p, isSchemePoint p = false → p ∉ u.scheme := by
    intro p hp hmem
    rw [List.all_eq_true.mp hs.points p hmem] at hp
    exact nomatch hp
  -- the fragment is behind the scheme, so the colon is there without it
  have hcut : ∃ rest', (cutFragment u.toText).1 = u.scheme ++ .char ':' :: rest' := by
    unfold cutFragment
    split
    · rename_i hcontains
      cases hlast : cutLast (.char '#') u.toText with
      | mk before after =>
        rcases eq_of_cutLast hlast with ⟨hnot, ⟨heq, -⟩ | heq⟩
        · rw [heq, List.contains_iff_mem] at hcontains
          exact absurd hcontains hnot
        · rw [htext, List.append_cons] at heq
          rcases List.append_eq_append_iff.mp heq with ⟨between, hbefore, -⟩ | ⟨between, hfront, hback⟩
          · exact ⟨between, by rw [hbefore, List.append_assoc]; rfl⟩
          · cases between with
            | nil =>
              rw [List.append_nil] at hfront
              exact ⟨[], hfront.symm⟩
            | cons p between =>
              rw [List.cons_append, List.cons.injEq] at hback
              have hmem : CodePoint.char '#' ∈ u.scheme ++ [.char ':'] := by
                rw [hfront, ← hback.1]
                simp
              rcases List.mem_append.mp hmem with hmem | hmem
              · exact absurd hmem (hfree _ (by decide))
              · exact absurd hmem (by decide)
    · exact ⟨rest, htext⟩
  rcases hcut with ⟨rest', hrest'⟩
  rw [tellsKind, hrest', Text.cut_append hs.colon_not_mem]
  simp [hs.ne_nil, hfree (.char '/') (by decide)]

end Url

/-! ## Headers that can be sent -/

namespace Client

/-- Who asks and what is configured is ASCII. -/
structure AsciiHeaders (client : Client) : Prop where
  agent : client.config.userAgent.isAscii = true
  configured : ∀ entry ∈ client.hostHeaders.toList, ∀ header ∈ entry.2.toList,
    header.1.isAscii = true ∧ header.2.isAscii = true

/-- A client that is not configured otherwise sends nothing else. -/
theorem asciiHeaders_default (server : Server) :
    AsciiHeaders { config := { dialTimeout := defaultDialTimeout }, server } :=
  ⟨(by decide : defaultUserAgent.isAscii = true), fun _ hmem => absurd hmem List.not_mem_nil⟩

variable {client : Client} {u : Url}

theorem exists_headersFor (h : client.AsciiHeaders) (hu : u.Nameable) :
    ∃ headers, client.headersFor u = .ok headers ∧
      ∀ header ∈ headers.toList, header.1.isAscii = true ∧ header.2.isAscii = true := by
  rcases hu.readable with ⟨name, hname⟩
  have hnetloc : u.netloc.notAscii = none := Text.notAscii_eq_none (Url.isAscii_netloc hu.ascii)
  have hheaders : client.headersFor u =
      .ok ((client.hostHeaders.get? u.netloc).getD ((client.hostHeaders.get? name).getD {})) := by
    rw [headersFor, hnetloc, hname]
    rfl
  refine ⟨_, hheaders, ?_⟩
  have hentry : ∀ host headers, client.hostHeaders.get? host = some headers →
      ∀ header ∈ headers.toList, header.1.isAscii = true ∧ header.2.isAscii = true :=
    fun host headers hget => h.configured _ (Mapping.mem_of_get? hget)
  -- an entry for the host and its port goes before one for the host
  cases hport : client.hostHeaders.get? u.netloc with
  | some headers => exact hentry _ headers hport
  | none =>
    cases hhost : client.hostHeaders.get? name with
    | some headers => exact hentry _ headers hhost
    | none => exact nofun

theorem exists_make? (h : client.AsciiHeaders) {configured : Mapping Text}
    (hconfigured : ∀ header ∈ configured.toList, header.1.isAscii = true ∧ header.2.isAscii = true)
    (url : Url) (verified : Bool) :
    ∃ r, Request.make? url client.config.userAgent configured verified = .ok r ∧
      r.verified = verified := by
  have hheaders : ∃ headers, Headers.ofConfigured configured = .ok headers := by
    apply exists_mapM_eq_ok
    intro header hmem
    rcases hconfigured header hmem with ⟨hname, hvalue⟩
    refine ⟨(header.1.asciiLower, header.2), ?_⟩
    dsimp only
    rw [Text.notAscii_eq_none hname, Text.notAscii_eq_none hvalue]
    rfl
  rcases hheaders with ⟨headers, hheaders⟩
  have hmake : ∃ sent, Request.make? url client.config.userAgent configured verified =
      .ok ⟨url, sent, verified⟩ := by
    rw [Request.make?, Text.notAscii_eq_none h.agent, hheaders]
    exact ⟨_, rfl⟩
  rcases hmake with ⟨sent, hmake⟩
  exact ⟨⟨url, sent, verified⟩, hmake, rfl⟩

/-- Configured headers are looked up by host and port. -/
theorem headersFor_congr {v : Url} (hhost : u.host = v.host) (hport : u.port = v.port) :
    client.headersFor u = client.headersFor v := by
  unfold headersFor
  rw [Url.netloc_eq, Url.netloc_eq v, hhost, hport]
  simp only [Url.hostName, hhost]

/-- Whether a request can be made is a matter of its headers. -/
theorem exists_make?_of_make? {configured : Mapping Text} {agent : Text} {verified : Bool} {r : Request}
    (h : Request.make? u agent configured verified = .ok r) (v : Url) (verified' : Bool) :
    ∃ r', Request.make? v agent configured verified' = .ok r' := by
  unfold Request.make? at h ⊢
  cases hagent : agent.notAscii with
  | some broken =>
    rw [hagent] at h
    exact nomatch h
  | none =>
    rw [hagent] at h
    rcases exists_of_bind_eq_ok h with ⟨-, -, h⟩
    rcases exists_of_bind_eq_ok h with ⟨headers, hheaders, -⟩
    rw [hheaders]
    exact ⟨_, rfl⟩

/-! ## One exchange -/

theorem ask_of_headersFor {headers : Mapping Text} (h : client.headersFor u = .ok headers)
    (target : Text) (verified : Bool) :
    client.ask target u verified =
      (Run.told (client.attemptRecord target verified headers) >>= fun _ =>
        Run.ofExcept (client.request u headers verified) >>=
          exchange client.server client.config.followRedirects) := by
  rw [ask, h]
  rfl

theorem attempt_of_asked {t scheme target : Text} (hu : Url.Asked t scheme target u)
    (verified : Bool) :
    client.attempt t scheme verified =
      ((client.ask target u verified).mapError (.connection target) >>= documentOf target) := by
  rw [attempt, hu.replaced]
  show (Run.ofExcept ((Url.parse target).mapError _) >>= _) = _
  rw [hu.parsed]
  rfl

/-- Asking is one exchange, once there are headers and a request. -/
theorem exchange_of_ask {headers : Mapping Text} {verified : Bool} {r : Request}
    (hheaders : client.headersFor u = .ok headers) (hrequest : client.request u headers verified = .ok r)
    (target : Text) :
    (client.ask target u verified).outcome =
        (exchange client.server client.config.followRedirects r).outcome ∧
      (client.ask target u verified).requests =
        (exchange client.server client.config.followRedirects r).requests := by
  rw [ask_of_headersFor hheaders, hrequest]
  exact ⟨rfl, rfl⟩

theorem request_of_make? {headers : Mapping Text} {verified : Bool} {r : Request}
    (hrelative : u.isRelative = false)
    (h : Request.make? u client.config.userAgent headers verified = .ok r) :
    client.request u headers verified = .ok r := by
  rw [request, if_neg (by simp [hrelative])]
  show (Request.make? u client.config.userAgent headers verified).mapError _ = _
  rw [h]
  rfl

/-- A URL that names its server is asked for by one request. -/
theorem exists_request (h : client.AsciiHeaders) (hu : u.Nameable) (hrelative : u.isRelative = false)
    (verified : Bool) :
    ∃ headers r, client.headersFor u = .ok headers ∧ client.request u headers verified = .ok r ∧
      r.url = u ∧ r.verified = verified := by
  rcases exists_headersFor h hu with ⟨headers, hheaders, hascii⟩
  rcases exists_make? h hascii u verified with ⟨r, hmake, hverified⟩
  exact ⟨headers, r, hheaders, request_of_make? hrelative hmake, url_of_make? hmake, hverified⟩

end Client

end ImageDiscovery
