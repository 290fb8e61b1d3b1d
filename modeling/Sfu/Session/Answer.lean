import Sfu.Session.OfferAnswer
import Sfu.Description.Origin

/-! `Session::create_pending_answer`: the matched description of an answer, built with no
local transceivers and the server's DTLS role, stamped by `update_sdp_origin` from an
`Origin::default()` of its own and marshalled. The call takes `&self` and the session
keeps no origin, so nothing passes from one answer to the next. The `sdp` crate's
marshaller is not part of the repository; it is a parameter. -/
namespace Sfu

open Sdp

variable {order : IterationOrder}

/-- `Session::create_pending_answer`. `origin` is the random `o=` line of the fresh
description `generate_matched_sdp` starts from, and `ridOrder` the order in which that
call's rid maps are visited. -/
def Session.createPendingAnswer (self : Session) (origin : Origin) (ridOrder : IterationOrder)
    (marshal : SessionDescription → String)
    (_endpointId : String) (remoteDescription : RTCSessionDescription) (localIceParams : RTCIceParameters) :
    Except Error RTCSessionDescription := do
  let useIdentity := false
  let localTransceivers : List RTCRtpTransceiver := []
  let d ← (self.generateMatchedSdp origin ridOrder remoteDescription localIceParams localTransceivers useIdentity
    false DTLSRole.server.toConnectionRole).2
  let sdpOrigin : Origin := default
  let (_, d) := updateSdpOrigin sdpOrigin d
  pure { sdpType := .answer, sdp := marshal d, parsed := some d }

/-- An answer is the matched description of its own call, marshalled, and its `o=` line
is that call's fresh one: the stored origin starts at the default on every call. -/
theorem createPendingAnswer_ok {self : Session} {origin : Origin} {marshal : SessionDescription → String}
    {endpointId : String} {R : RTCSessionDescription} {ice : RTCIceParameters} {a : RTCSessionDescription}
    (h : self.createPendingAnswer origin order marshal endpointId R ice = .ok a) :
    ∃ d, (self.generateMatchedSdp origin order R ice [] false false .passive).2 = .ok d ∧ d.origin = origin ∧
      a = { sdpType := .answer, sdp := marshal d, parsed := some d } := by
  unfold Session.createPendingAnswer at h
  cases hGen : (self.generateMatchedSdp origin order R ice [] false false DTLSRole.server.toConnectionRole).2 with
  | error e => simp [hGen, bind, Except.bind] at h
  | ok d =>
    simp only [hGen, bind, Except.bind, updateSdpOrigin_default, pure, Except.pure, Except.ok.injEq] at h
    obtain ⟨-, cert, -, hPop⟩ := generateMatchedSdp_ok hGen
    exact ⟨d, hGen,
      by rw [populateSdp_origin hPop, SessionDescription.newJsepSessionDescription_origin], h.symm⟩

/-- Two answers on one session to an offer with one application section, from fresh
origins `(1, 5)` and `(2, 9)`: they carry those origins, so different session ids and
versions that do not step by one. -/
theorem createPendingAnswer_second_origin_not_carried :
    ((Session.createPendingAnswer ⟨1, ⟨"10.0.0.1", 5000⟩, [⟨[]⟩], []⟩ ⟨1, 5⟩ .insertion (fun _ => "") "peer"
        ⟨.offer, "", some ⟨⟨7, 7⟩, [], [⟨⟨"application", ⟨9, none⟩, [], []⟩, none, [⟨"mid", some "0"⟩]⟩]⟩⟩
        ⟨"u", "p"⟩).map (·.parsed.map (·.origin)),
      (Session.createPendingAnswer ⟨1, ⟨"10.0.0.1", 5000⟩, [⟨[]⟩], []⟩ ⟨2, 9⟩ .insertion (fun _ => "") "peer"
        ⟨.offer, "", some ⟨⟨7, 7⟩, [], [⟨⟨"application", ⟨9, none⟩, [], []⟩, none, [⟨"mid", some "0"⟩]⟩]⟩⟩
        ⟨"u", "p"⟩).map (·.parsed.map (·.origin))) =
      (.ok (some ⟨1, 5⟩), .ok (some ⟨2, 9⟩)) := rfl

/-- With no local transceiver the matcher rejects exactly the remote sections with an empty
mid and the recognised audio and video sections with a mid. -/
theorem rejectsMedia_nil_iff {media : MediaDescription} :
    RejectsMedia [] media ↔ getMidValue media = some "" ∨ (isMediaSection media = true ∧ getMidValue media ≠ none) := by
  unfold RejectsMedia
  cases hMid : getMidValue media with
  | none => simp
  | some v => by_cases hv : v = "" <;> simp [hv, findTransceiver]

/-- `create_pending_answer` passes no local transceiver, so it can answer only data
channels: it succeeds exactly when the session has a certificate and every remote section
with a mid has a non-empty one and is no audio or video section the engine recognises. -/
theorem createPendingAnswer_ok_iff {self : Session} {origin : Origin} {marshal : SessionDescription → String}
    {endpointId : String} {R : RTCSessionDescription} {ice : RTCIceParameters} :
    (∃ a, self.createPendingAnswer origin order marshal endpointId R ice = .ok a) ↔
      self.certificates ≠ [] ∧ ∀ media ∈ remoteMedia R, getMidValue media ≠ some "" ∧
        (isMediaSection media = true → getMidValue media = none) := by
  have hNoReject : (∀ m ∈ remoteMedia R, ¬RejectsMedia [] m) ↔ ∀ media ∈ remoteMedia R,
      getMidValue media ≠ some "" ∧ (isMediaSection media = true → getMidValue media = none) := by
    refine forall₂_congr fun media _ => ?_
    rw [rejectsMedia_nil_iff, not_or, not_and, not_not]
  constructor
  · rintro ⟨a, h⟩
    obtain ⟨d, hGen, -⟩ := createPendingAnswer_ok h
    obtain ⟨hNo, cert, hCert, -⟩ := generateMatchedSdp_ok hGen
    exact ⟨fun hNil => by simp [hNil] at hCert, hNoReject.mp hNo⟩
  · rintro ⟨hCerts, hMedia⟩
    have hNo := hNoReject.mpr hMedia
    obtain ⟨cert, hCert⟩ := Option.ne_none_iff_exists'.mp (mt List.head?_eq_none_iff.mp hCerts)
    have hValid : ¬∃ s ∈ matchedSections order (remoteMedia R) [] false, s.Invalid := fun hInvalid => by
      obtain ⟨r, hr, -⟩ := (matchedSections_invalid hNo).mp hInvalid
      simpa using matchedSections_positions hNo r hr
    cases hPop : populateSdp (.newJsepSessionDescription origin false) cert.getFingerprints self.localAddr ice
        .passive (matchedSections order (remoteMedia R) [] false) true with
    | error e => exact absurd (populateSdp_error.1.mp ⟨e, hPop⟩) hValid
    | ok d =>
      have hGen : (self.generateMatchedSdp origin order R ice [] false false DTLSRole.server.toConnectionRole).2 =
          .ok d := by
        rw [generateMatchedSdp_eq, matchMediaSections_eq hNo]
        simpa only [bind, Except.bind, hCert] using hPop
      simp [Session.createPendingAnswer, hGen, bind, Except.bind, pure, Except.pure]

/-- An answer from `create_pending_answer` has one `sendrecv` application section per
remote application section with a mid, in order and under the same mid, and nothing
else. -/
theorem createPendingAnswer_data_sections {self : Session} {origin : Origin}
    {marshal : SessionDescription → String} {endpointId : String} {R : RTCSessionDescription}
    {ice : RTCIceParameters} {a : RTCSessionDescription}
    (h : self.createPendingAnswer origin order marshal endpointId R ice = .ok a) :
    ∃ d, a.parsed = some d ∧
      List.Forall₂ (fun media md => md.mediaName.media = mediaSectionApplication ∧
          getMidValue md = getMidValue media ∧ getPeerDirection md = .sendrecv)
        ((remoteMedia R).filter fun media => (getMidValue media).isSome &&
          media.mediaName.media = mediaSectionApplication) d.mediaDescriptions := by
  obtain ⟨d, hGen, -, rfl⟩ := createPendingAnswer_ok h
  obtain ⟨hNo, cert, -, hMedia⟩ := generateMatchedSdp_media hGen
  have hRetained : (remoteMedia R).filter isRetained = (remoteMedia R).filter fun media =>
      (getMidValue media).isSome && media.mediaName.media = mediaSectionApplication := by
    refine List.filter_congr fun media hm => ?_
    have hNot := hNo media hm
    rw [rejectsMedia_nil_iff, not_or, not_and, not_not] at hNot
    by_cases hKind : isMediaSection media <;> simp [isRetained, hKind, hNot.2]
  refine ⟨d, rfl, ?_⟩
  rw [hMedia, matchedSections_answer, List.enum, ← hRetained]
  refine forall₂_enumFrom_map (fun media s i (hs : remoteSection order [] false media = some s) => ?_) 0
    (retained_remoteSections hNo)
  obtain ⟨v, hMid, ⟨-, rfl⟩ | ⟨-, r, hFind, -⟩⟩ := remoteSection_eq_some hs
  · refine ⟨by rw [sectionMedia_media], ?_, sectionMedia_getPeerDirection _⟩
    rw [sectionMedia_getMidValue (by simp), hMid]
    rfl
  · cases hFind

/-- An offer with an application section and an audio section without a mid. -/
theorem createPendingAnswer_data_sections_one_channel :
    ∃ a, Session.createPendingAnswer ⟨1, ⟨"10.0.0.1", 5000⟩, [⟨[]⟩], []⟩ ⟨1, 5⟩ .insertion (fun _ => "") "peer"
        ⟨.offer, "", some ⟨⟨7, 7⟩, [], [⟨⟨"application", ⟨9, none⟩, [], []⟩, none, [⟨"mid", some "0"⟩]⟩,
          ⟨⟨"audio", ⟨9, none⟩, [], []⟩, none, [⟨"sendrecv", none⟩]⟩]⟩⟩ ⟨"u", "p"⟩ = .ok a ∧
      ∃ d, a.parsed = some d ∧
        List.Forall₂ (fun media md => md.mediaName.media = mediaSectionApplication ∧
            getMidValue md = getMidValue media ∧ getPeerDirection md = .sendrecv)
          ((remoteMedia ⟨.offer, "", some ⟨⟨7, 7⟩, [],
            [⟨⟨"application", ⟨9, none⟩, [], []⟩, none, [⟨"mid", some "0"⟩]⟩,
             ⟨⟨"audio", ⟨9, none⟩, [], []⟩, none, [⟨"sendrecv", none⟩]⟩]⟩⟩).filter fun media =>
            (getMidValue media).isSome && media.mediaName.media = mediaSectionApplication)
          d.mediaDescriptions :=
  Exists.imp (fun _ h => ⟨h, createPendingAnswer_data_sections h⟩) ⟨_, rfl⟩

end Sfu
