import Mathlib.Data.Nat.Digits
import Sfu.Session.Plan
import Sfu.Description.Readback

/-! Offer and answer as a peer running this engine reads them. Every description
`generate_matched_sdp` returns is what `populate_sdp` builds from the matcher's sections;
read back through the remote-section readers, an answer advertises on each section the
direction RFC 3264 §6.1 allows, an offer each transceiver's own direction, and the
engine's answer to its own offer keeps, in order, every offered section a peer retains. -/
namespace Sfu

open Sdp

variable {order : IterationOrder}

/-- Whenever `generate_matched_sdp` returns a description, the matcher rejected no remote
section, the session has a certificate, and the media descriptions are the sections of
`matchedSections`, each built at its index with the certificate's fingerprints. -/
theorem generateMatchedSdp_media {self : Session} {origin : Origin} {R : RTCSessionDescription}
    {ice : RTCIceParameters} {ts : List RTCRtpTransceiver} {useIdentity inc : Bool} {role : ConnectionRole}
    {d : SessionDescription} (h : (self.generateMatchedSdp origin order R ice ts useIdentity inc role).2 = .ok d) :
    (∀ m ∈ remoteMedia R, ¬RejectsMedia ts m) ∧ ∃ cert, self.certificates.head? = some cert ∧
      d.mediaDescriptions = (matchedSections order (remoteMedia R) ts inc).enum.map fun p =>
        sectionMedia cert.getFingerprints self.localAddr ice role p.1 p.2 := by
  obtain ⟨hNo, cert, hCert, hPop⟩ := generateMatchedSdp_ok h
  refine ⟨hNo, cert, hCert, ?_⟩
  rw [populateSdp_media hPop, SessionDescription.newJsepSessionDescription_mediaDescriptions,
    List.nil_append, if_pos rfl]

/-- The media description at index `i` of one `generate_matched_sdp` returns is the section
the matcher built there, with the certificate's fingerprints: a data section exactly when
it has no transceiver, and otherwise built from one of the caller's transceivers. -/
theorem generateMatchedSdp_sectionAt {self : Session} {origin : Origin} {R : RTCSessionDescription}
    {ice : RTCIceParameters} {ts : List RTCRtpTransceiver} {useIdentity inc : Bool} {role : ConnectionRole}
    {d : SessionDescription} (h : (self.generateMatchedSdp origin order R ice ts useIdentity inc role).2 = .ok d) :
    ∃ cert, self.certificates.head? = some cert ∧ ∀ i md, d.mediaDescriptions[i]? = some md →
      ∃ s, md = sectionMedia cert.getFingerprints self.localAddr ice role i s ∧
        (s.data = true ↔ s.transceiver = none) ∧ ∀ r, s.transceiver = some r → r.transceiver ∈ ts := by
  obtain ⟨hNo, cert, hCert, hMedia⟩ := generateMatchedSdp_media h
  refine ⟨cert, hCert, fun i md hi => ?_⟩
  rw [hMedia, List.getElem?_map, List.getElem?_enum] at hi
  obtain ⟨s, hs, rfl⟩ : ∃ s, (matchedSections order (remoteMedia R) ts inc)[i]? = some s ∧
      sectionMedia cert.getFingerprints self.localAddr ice role i s = md := by simpa using hi
  have hMem := List.getElem?_mem hs
  exact ⟨s, rfl, matchedSections_wellFormed hNo s hMem, fun r hT =>
    List.getElem?_mem (matchedSections_positions hNo r (List.mem_filterMap.mpr ⟨s, hMem, hT⟩))⟩

/-- Every description `generate_matched_sdp` returns names one transport for all its
accepted sections: each carries the DTLS role and the local ICE credentials once each, and
a rejected section (port 0) none of them. -/
theorem generateMatchedSdp_transport {self : Session} {origin : Origin} {R : RTCSessionDescription}
    {ice : RTCIceParameters} {ts : List RTCRtpTransceiver} {useIdentity inc : Bool} {role : ConnectionRole}
    {d : SessionDescription} (h : (self.generateMatchedSdp origin order R ice ts useIdentity inc role).2 = .ok d) :
    ∀ md ∈ d.mediaDescriptions,
      md.attributesWithKey attrKeyConnectionSetup =
          (if md.mediaName.port.value = 0 then [] else [⟨attrKeyConnectionSetup, some (toString role)⟩]) ∧
        md.attributesWithKey "ice-ufrag" =
          (if md.mediaName.port.value = 0 then [] else [⟨"ice-ufrag", some ice.usernameFragment⟩]) ∧
        md.attributesWithKey "ice-pwd" =
          (if md.mediaName.port.value = 0 then [] else [⟨"ice-pwd", some ice.password⟩]) := by
  obtain ⟨hNo, cert, -, hMedia⟩ := generateMatchedSdp_media h
  intro md hm
  rw [hMedia] at hm
  obtain ⟨⟨i, s⟩, hp, rfl⟩ := List.mem_map.mp hm
  have hWell := matchedSections_wellFormed hNo s (List.snd_mem_of_mem_enum hp)
  have hPort := (@sectionMedia_builtFrom cert.getFingerprints self.localAddr ice role i s hWell).1.rejected
  obtain ⟨hSetup, hUfrag, hPwd⟩ := @sectionMedia_transport cert.getFingerprints self.localAddr ice role i s hWell
  dsimp only at hPort hSetup hUfrag hPwd ⊢
  rw [hSetup, hUfrag, hPwd]
  cases hAcc : s.accepted <;> simp [hAcc] at hPort <;> simp [hPort]

/-- The offer of a `sendrecv` audio and a `sendonly` video transceiver, with no remote
description. -/
theorem generateMatchedSdp_transport_audio_video :
    ∃ d, (Session.generateMatchedSdp ⟨1, ⟨"10.0.0.1", 5000⟩, [⟨[⟨"sha-256", "AB"⟩]⟩], []⟩ ⟨1, 1⟩ .insertion
        ⟨.unspecified, "", none⟩ ⟨"u", "p"⟩
        [⟨"0", ⟨none, 1, none, [], false⟩, .sendrecv, [⟨⟨"audio/opus", 48000, 2, "", []⟩, 111⟩], .audio⟩,
         ⟨"1", ⟨none, 2, none, [], false⟩, .sendonly, [⟨⟨"video/VP8", 90000, 0, "", []⟩, 96⟩], .video⟩]
        false true .active).2 = .ok d ∧
      ∀ md ∈ d.mediaDescriptions,
        md.attributesWithKey attrKeyConnectionSetup =
            (if md.mediaName.port.value = 0 then [] else [⟨attrKeyConnectionSetup, some (toString ConnectionRole.active)⟩]) ∧
          md.attributesWithKey "ice-ufrag" = (if md.mediaName.port.value = 0 then [] else [⟨"ice-ufrag", some "u"⟩]) ∧
          md.attributesWithKey "ice-pwd" = (if md.mediaName.port.value = 0 then [] else [⟨"ice-pwd", some "p"⟩]) :=
  Exists.imp (fun _ h => ⟨h, generateMatchedSdp_transport h⟩) ⟨_, rfl⟩

/-- Every RTP section of a description `generate_matched_sdp` returns, offer or answer, is
built from one local transceiver: it has the transceiver's kind, lists its payload types
as formats (`0` on the rejection block), and carries one `a=rtpmap` per codec, in the order
of the formats, with each codec's `a=fmtp` and `a=rtcp-fb` lines. An application section
carries none of these lines. -/
theorem generateMatchedSdp_codecs {self : Session} {origin : Origin} {R : RTCSessionDescription}
    {ice : RTCIceParameters} {ts : List RTCRtpTransceiver} {useIdentity inc : Bool} {role : ConnectionRole}
    {d : SessionDescription} (h : (self.generateMatchedSdp origin order R ice ts useIdentity inc role).2 = .ok d) :
    ∀ md ∈ d.mediaDescriptions,
      (md.mediaName.media = mediaSectionApplication ∧ md.attributesWithKey "rtpmap" = [] ∧
          md.attributesWithKey "fmtp" = [] ∧ md.attributesWithKey "rtcp-fb" = []) ∨
        ∃ t ∈ ts, md.mediaName.media = toString t.kind ∧
          md.mediaName.formats =
            (if t.codecs = [] then ["0"] else t.codecs.map fun codec => toString codec.payloadType) ∧
          md.attributesWithKey "rtpmap" = t.codecs.map rtpmapAttribute ∧
          md.attributesWithKey "fmtp" = t.codecs.flatMap fmtpAttributes ∧
          md.attributesWithKey "rtcp-fb" = t.codecs.flatMap rtcpFbAttributes := by
  obtain ⟨cert, -, hAt⟩ := generateMatchedSdp_sectionAt h
  intro md hm
  obtain ⟨i, hi⟩ := List.mem_iff_getElem?.mp hm
  obtain ⟨s, rfl, -, hTs⟩ := hAt i md hi
  obtain ⟨hRtpmap, hFmtp, hFb⟩ := @sectionMedia_codecLines cert.getFingerprints self.localAddr ice role i s
  rw [hRtpmap, hFmtp, hFb, sectionMedia_media, sectionMedia_formats]
  unfold MediaSection.codecs
  cases hT : s.transceiver with
  | none => exact .inl ⟨rfl, rfl, rfl, rfl⟩
  | some r => exact .inr ⟨r.transceiver, hTs r hT, rfl, rfl, rfl, rfl, rfl⟩

/-- The offer of an audio transceiver whose codec has format parameters and a video one
whose codec asks for NACK feedback. -/
theorem generateMatchedSdp_codecs_audio_video :
    ∃ d, (Session.generateMatchedSdp ⟨1, ⟨"10.0.0.1", 5000⟩, [⟨[⟨"sha-256", "AB"⟩]⟩], []⟩ ⟨1, 1⟩ .insertion
        ⟨.unspecified, "", none⟩ ⟨"u", "p"⟩
        [⟨"0", ⟨none, 1, none, [], false⟩, .sendrecv,
          [⟨⟨"audio/opus", 48000, 2, "minptime=10", []⟩, 111⟩], .audio⟩,
         ⟨"1", ⟨none, 2, none, [], false⟩, .sendonly, [⟨⟨"video/VP8", 90000, 0, "", [⟨"nack", ""⟩]⟩, 96⟩], .video⟩]
        false true .active).2 = .ok d ∧
      ∀ md ∈ d.mediaDescriptions,
        (md.mediaName.media = mediaSectionApplication ∧ md.attributesWithKey "rtpmap" = [] ∧
            md.attributesWithKey "fmtp" = [] ∧ md.attributesWithKey "rtcp-fb" = []) ∨
          ∃ t ∈ ([⟨"0", ⟨none, 1, none, [], false⟩, .sendrecv,
                [⟨⟨"audio/opus", 48000, 2, "minptime=10", []⟩, 111⟩], .audio⟩,
              ⟨"1", ⟨none, 2, none, [], false⟩, .sendonly,
                [⟨⟨"video/VP8", 90000, 0, "", [⟨"nack", ""⟩]⟩, 96⟩], .video⟩] : List RTCRtpTransceiver),
            md.mediaName.media = toString t.kind ∧
            md.mediaName.formats =
              (if t.codecs = [] then ["0"] else t.codecs.map fun codec => toString codec.payloadType) ∧
            md.attributesWithKey "rtpmap" = t.codecs.map rtpmapAttribute ∧
            md.attributesWithKey "fmtp" = t.codecs.flatMap fmtpAttributes ∧
            md.attributesWithKey "rtcp-fb" = t.codecs.flatMap rtcpFbAttributes :=
  Exists.imp (fun _ h => ⟨h, generateMatchedSdp_codecs h⟩) ⟨_, rfl⟩

/-- Every RTP section of a description `generate_matched_sdp` returns, offer or answer, is
built from one local transceiver, and when that transceiver has codecs its sender's lines
are there: one `a=msid` per associated stream, naming the track id latched by an earlier
negotiation when there is one and the current track's otherwise (RFC 8829 §5.2.2), and the
four `a=ssrc` source lines of its track (RFC 5576). A rejection block and an application
section carry neither. -/
theorem generateMatchedSdp_senderLines {self : Session} {origin : Origin} {R : RTCSessionDescription}
    {ice : RTCIceParameters} {ts : List RTCRtpTransceiver} {useIdentity inc : Bool} {role : ConnectionRole}
    {d : SessionDescription} (h : (self.generateMatchedSdp origin order R ice ts useIdentity inc role).2 = .ok d) :
    ∀ md ∈ d.mediaDescriptions,
      (md.mediaName.media = mediaSectionApplication ∧ attributesWithMsidKey md = [] ∧
          md.attributesWithKey "ssrc" = []) ∨
        ∃ t ∈ ts, md.mediaName.media = toString t.kind ∧
          attributesWithMsidKey md = (if t.codecs = [] then [] else msidAttributes t.sender) ∧
          md.attributesWithKey "ssrc" =
            (if t.codecs = [] then [] else (t.sender.track.map (ssrcAttributes t.sender.ssrc)).getD []) := by
  obtain ⟨cert, -, hAt⟩ := generateMatchedSdp_sectionAt h
  intro md hm
  obtain ⟨i, hi⟩ := List.mem_iff_getElem?.mp hm
  obtain ⟨s, rfl, -, hTs⟩ := hAt i md hi
  obtain ⟨hMsid, hSsrc⟩ := @sectionMedia_senderLines cert.getFingerprints self.localAddr ice role i s
  rw [hMsid, hSsrc, sectionMedia_media]
  cases hT : s.transceiver with
  | none => exact .inl ⟨rfl, rfl, rfl⟩
  | some r => exact .inr ⟨r.transceiver, hTs r hT, rfl, rfl, rfl⟩

/-- The offer of an audio transceiver sending track "A" of stream "s" for the first time, and
a video one whose msid latch already names track "V0". -/
theorem generateMatchedSdp_senderLines_latched :
    ∃ d, (Session.generateMatchedSdp ⟨1, ⟨"10.0.0.1", 5000⟩, [⟨[⟨"sha-256", "AB"⟩]⟩], []⟩ ⟨1, 1⟩ .insertion
        ⟨.unspecified, "", none⟩ ⟨"u", "p"⟩
        [⟨"0", ⟨some ⟨"A", "s"⟩, 1, none, ["s"], false⟩, .sendrecv,
                [⟨⟨"audio/opus", 48000, 2, "", []⟩, 111⟩], .audio⟩,
              ⟨"1", ⟨some ⟨"V", "s"⟩, 2, some "V0", ["s"], false⟩, .sendonly,
                [⟨⟨"video/VP8", 90000, 0, "", []⟩, 96⟩], .video⟩]
        false true .active).2 = .ok d ∧
      ∀ md ∈ d.mediaDescriptions,
        (md.mediaName.media = mediaSectionApplication ∧ attributesWithMsidKey md = [] ∧
            md.attributesWithKey "ssrc" = []) ∨
          ∃ t ∈ ([⟨"0", ⟨some ⟨"A", "s"⟩, 1, none, ["s"], false⟩, .sendrecv,
                [⟨⟨"audio/opus", 48000, 2, "", []⟩, 111⟩], .audio⟩,
              ⟨"1", ⟨some ⟨"V", "s"⟩, 2, some "V0", ["s"], false⟩, .sendonly,
                [⟨⟨"video/VP8", 90000, 0, "", []⟩, 96⟩], .video⟩] : List RTCRtpTransceiver),
            md.mediaName.media = toString t.kind ∧
            attributesWithMsidKey md = (if t.codecs = [] then [] else msidAttributes t.sender) ∧
            md.attributesWithKey "ssrc" =
              (if t.codecs = [] then [] else (t.sender.track.map (ssrcAttributes t.sender.ssrc)).getD []) :=
  Exists.imp (fun _ h => ⟨h, generateMatchedSdp_senderLines h⟩) ⟨_, rfl⟩

/-- Every application section of a description `generate_matched_sdp` returns is the
data-channel section, line by line: `m=application 9 UDP/DTLS/SCTP webrtc-datachannel`,
the placeholder `c=` line, then setup role, mid, `sendrecv`, SCTP port 5000, message size
262144, the ICE credentials and the certificate's fingerprints, in that order. After them
come only host candidate lines and the end-of-candidates marker, and only in the first
section. -/
theorem generateMatchedSdp_dataSections {self : Session} {origin : Origin} {R : RTCSessionDescription}
    {ice : RTCIceParameters} {ts : List RTCRtpTransceiver} {useIdentity inc : Bool} {role : ConnectionRole}
    {d : SessionDescription} (h : (self.generateMatchedSdp origin order R ice ts useIdentity inc role).2 = .ok d) :
    ∃ cert, self.certificates.head? = some cert ∧
      ∀ i md, d.mediaDescriptions[i]? = some md → md.mediaName.media = mediaSectionApplication →
        md.mediaName = ⟨mediaSectionApplication, ⟨9, none⟩, ["UDP", "DTLS", "SCTP"], ["webrtc-datachannel"]⟩ ∧
        md.connectionInformation = some placeholderConnection ∧
        ∃ mid added, md.attributes =
            dataSectionAttributes role mid ice ++ cert.getFingerprints.map fingerprintAttribute ++ added ∧
          added.Sublist [candidateAttribute self.localAddr 1, candidateAttribute self.localAddr 2,
            endOfCandidatesAttribute] ∧
          (i ≠ 0 → added = []) := by
  obtain ⟨cert, hCert, hAt⟩ := generateMatchedSdp_sectionAt h
  refine ⟨cert, hCert, fun i md hi hApp => ?_⟩
  obtain ⟨s, rfl, -⟩ := hAt i md hi
  cases hT : s.transceiver with
  | none => exact (sectionMedia_data hT).imp_right (.imp_right fun hA => ⟨s.id, hA⟩)
  | some r =>
    rw [sectionMedia_media, hT] at hApp
    exact absurd hApp (toString_ne_application _)

/-- The answer to a remote description holding one application section: the data-channel
section at index 0, with the host candidates of the session's address. -/
theorem generateMatchedSdp_dataSections_answer :
    ∃ d, (Session.generateMatchedSdp ⟨1, ⟨"10.0.0.1", 5000⟩, [⟨[⟨"sha-256", "ab"⟩]⟩], []⟩ ⟨1, 1⟩ .insertion
        ⟨.offer, "", some ⟨⟨1, 1⟩, [], [⟨⟨"application", ⟨9, none⟩, [], []⟩, none, [⟨"mid", some "0"⟩]⟩]⟩⟩
        ⟨"u", "p"⟩ [] false false .passive).2 = .ok d ∧
      ∃ cert, (⟨1, ⟨"10.0.0.1", 5000⟩, [⟨[⟨"sha-256", "ab"⟩]⟩], []⟩ : Session).certificates.head? = some cert ∧
        ∀ i md, d.mediaDescriptions[i]? = some md → md.mediaName.media = mediaSectionApplication →
          md.mediaName = ⟨mediaSectionApplication, ⟨9, none⟩, ["UDP", "DTLS", "SCTP"], ["webrtc-datachannel"]⟩ ∧
          md.connectionInformation = some placeholderConnection ∧
          ∃ mid added, md.attributes =
              dataSectionAttributes .passive mid ⟨"u", "p"⟩ ++ cert.getFingerprints.map fingerprintAttribute ++ added ∧
            added.Sublist [candidateAttribute ⟨"10.0.0.1", 5000⟩ 1, candidateAttribute ⟨"10.0.0.1", 5000⟩ 2,
              endOfCandidatesAttribute] ∧
            (i ≠ 0 → added = []) :=
  Exists.imp (fun _ h => ⟨h, generateMatchedSdp_dataSections h⟩) ⟨_, rfl⟩

/-- The session level of every description `generate_matched_sdp` returns: the `o=` line
it is given, `a=identity` exactly when asked for, then `a=ice-lite` (the server is a lite
ICE agent, RFC 5245 §15.3) and one `a=group` bundling, in order, the mids its media
descriptions carry. No fingerprint sits at session level: each section carries its own. -/
theorem generateMatchedSdp_session {self : Session} {origin : Origin} {R : RTCSessionDescription}
    {ice : RTCIceParameters} {ts : List RTCRtpTransceiver} {useIdentity inc : Bool} {role : ConnectionRole}
    {d : SessionDescription} (h : (self.generateMatchedSdp origin order R ice ts useIdentity inc role).2 = .ok d) :
    d.origin = origin ∧
      d.attributes = (if useIdentity then [⟨attrKeyIdentity, none⟩] else []) ++
        [⟨attrKeyIcelite, none⟩, ⟨attrKeyGroup,
          some ("BUNDLE" ++ String.join ((d.mediaDescriptions.filterMap getMidValue).map (" " ++ ·)))⟩] := by
  obtain ⟨-, cert, -, hPop⟩ := generateMatchedSdp_ok h
  obtain ⟨mds, hM, hBuilt, -, hA⟩ := populateSdp_ok hPop
  rw [SessionDescription.newJsepSessionDescription_mediaDescriptions, List.nil_append] at hM
  refine ⟨by rw [populateSdp_origin hPop, SessionDescription.newJsepSessionDescription_origin], ?_⟩
  rw [hA, hM, filterMap_getMidValue_of_builtFrom hBuilt, List.map_map]
  simp [sessionFingerprints, bundleValue, Function.comp_def]

/-- The offer of a `sendrecv` audio and a `sendonly` video transceiver, asked to assert an
identity. -/
theorem generateMatchedSdp_session_identity :
    ∃ d, (Session.generateMatchedSdp ⟨1, ⟨"10.0.0.1", 5000⟩, [⟨[⟨"sha-256", "AB"⟩]⟩], []⟩ ⟨1, 1⟩ .insertion
        ⟨.unspecified, "", none⟩ ⟨"u", "p"⟩
        [⟨"0", ⟨none, 1, none, [], false⟩, .sendrecv, [⟨⟨"audio/opus", 48000, 2, "", []⟩, 111⟩], .audio⟩,
         ⟨"1", ⟨none, 2, none, [], false⟩, .sendonly, [⟨⟨"video/VP8", 90000, 0, "", []⟩, 96⟩], .video⟩]
        true true .active).2 = .ok d ∧
      d.origin = ⟨1, 1⟩ ∧
      d.attributes = (if true then [⟨attrKeyIdentity, none⟩] else []) ++
        [⟨attrKeyIcelite, none⟩, ⟨attrKeyGroup,
          some ("BUNDLE" ++ String.join ((d.mediaDescriptions.filterMap getMidValue).map (" " ++ ·)))⟩] :=
  Exists.imp (fun _ h => ⟨h, generateMatchedSdp_session h⟩) ⟨_, rfl⟩

/-! ### Directions in an answer -/

/-- The direction an answer may advertise on the section it builds for a remote section:
`sendrecv` for an application section; for a media section on a local transceiver with
codecs, sending exactly when the peer receives and the transceiver sends, and receiving
exactly when the peer sends and the transceiver receives (RFC 3264 §6.1); none on the
rejection block of a transceiver without codecs. -/
def AnswersDirection (localTransceivers : List RTCRtpTransceiver) (media md : MediaDescription) : Prop :=
  (media.mediaName.media = mediaSectionApplication → getPeerDirection md = .sendrecv) ∧
    ∀ v r, getMidValue media = some v → isMediaSection media = true →
      findTransceiver v 0 localTransceivers = some r →
      if r.transceiver.codecs = [] then getPeerDirection md = .unspecified
      else (getPeerDirection md).hasSend = ((getPeerDirection media).hasRecv && r.transceiver.direction.hasSend) ∧
        (getPeerDirection md).hasRecv = ((getPeerDirection media).hasSend && r.transceiver.direction.hasRecv)

/-- The section an answer builds for a remote section answers its direction. -/
theorem remoteSection_answersDirection {ts : List RTCRtpTransceiver} {media : MediaDescription}
    {s : MediaSection} (hs : remoteSection order ts false media = some s) (fps : List RTCDtlsFingerprint)
    (c : SocketAddr) (ice : RTCIceParameters) (role : ConnectionRole) (i : Nat) :
    AnswersDirection ts media (sectionMedia fps c ice role i s) := by
  obtain ⟨v, hMid, ⟨hApp, rfl⟩ | ⟨hKind, r, hFind, rfl⟩⟩ := remoteSection_eq_some hs
  · exact ⟨fun _ => sectionMedia_getPeerDirection _,
      fun _ _ _ hKind => absurd hApp (isMediaSection_iff.mp hKind).1⟩
  · refine ⟨fun hApp => absurd hApp (isMediaSection_iff.mp hKind).1, fun v' r' hMid' _ hFind' => ?_⟩
    obtain rfl : v' = v := Option.some.inj (hMid'.symm.trans hMid)
    obtain rfl : r' = r := Option.some.inj (hFind'.symm.trans hFind)
    rw [sectionMedia_getPeerDirection]
    simp only [Bool.false_eq_true, if_false]
    split_ifs
    · rfl
    · exact answerDirection_hasSend_hasRecv (isMediaSection_iff.mp hKind).2.2 _

/-- An answer's media descriptions are, one for one and in order, those of the retained
remote sections, and each advertises the direction RFC 3264 §6.1 allows: it never sends
to a peer that does not receive, nor claims to receive from one that does not send, and
otherwise grants what the local transceiver allows. -/
theorem generateMatchedSdp_answer_directions {self : Session} {origin : Origin}
    {R : RTCSessionDescription} {ice : RTCIceParameters} {ts : List RTCRtpTransceiver}
    {useIdentity : Bool} {role : ConnectionRole} {d : SessionDescription}
    (h : (self.generateMatchedSdp origin order R ice ts useIdentity false role).2 = .ok d) :
    List.Forall₂ (AnswersDirection ts) ((remoteMedia R).filter isRetained) d.mediaDescriptions := by
  obtain ⟨hNo, cert, -, hMedia⟩ := generateMatchedSdp_media h
  rw [hMedia, matchedSections_answer, List.enum]
  exact forall₂_enumFrom_map
    (fun media s i (hs : remoteSection order ts false media = some s) => remoteSection_answersDirection hs _ _ _ _ i) 0
    (retained_remoteSections hNo)

/-- A remote application section, then a video section the peer only sends on, answered by
a local `sendrecv` transceiver with a codec. -/
theorem generateMatchedSdp_answer_directions_sendonly_peer :
    ∃ d, (Session.generateMatchedSdp ⟨1, ⟨"10.0.0.1", 5000⟩, [⟨[⟨"sha-256", "AB"⟩]⟩], []⟩ ⟨1, 1⟩ .insertion
        ⟨.offer, "", some ⟨⟨1, 1⟩, [],
          [⟨⟨"application", ⟨9, none⟩, [], []⟩, none, [⟨"mid", some "0"⟩]⟩,
           ⟨⟨"video", ⟨9, none⟩, [], []⟩, none, [⟨"mid", some "1"⟩, ⟨"sendonly", none⟩]⟩]⟩⟩
        ⟨"u", "p"⟩
        [⟨"1", ⟨none, 1, none, [], false⟩, .sendrecv, [⟨⟨"video/VP8", 90000, 0, "", []⟩, 96⟩], .video⟩]
        false false .passive).2 = .ok d ∧
      List.Forall₂ (AnswersDirection
          [⟨"1", ⟨none, 1, none, [], false⟩, .sendrecv, [⟨⟨"video/VP8", 90000, 0, "", []⟩, 96⟩], .video⟩])
        ((remoteMedia ⟨.offer, "", some ⟨⟨1, 1⟩, [],
          [⟨⟨"application", ⟨9, none⟩, [], []⟩, none, [⟨"mid", some "0"⟩]⟩,
           ⟨⟨"video", ⟨9, none⟩, [], []⟩, none, [⟨"mid", some "1"⟩, ⟨"sendonly", none⟩]⟩]⟩⟩).filter isRetained)
        d.mediaDescriptions :=
  Exists.imp (fun _ h => ⟨h, generateMatchedSdp_answer_directions h⟩) ⟨_, rfl⟩

/-- The section an answer builds for a remote section keeps its `m=` type when the local
transceiver its mid names has the remote section's kind. -/
theorem remoteSection_answer_media {ts : List RTCRtpTransceiver} {media : MediaDescription}
    {s : MediaSection} (hs : remoteSection order ts false media = some s)
    (hKind : ∀ t ∈ ts, getMidValue media = some t.mid → isMediaSection media = true →
      t.kind = RTPCodecType.fromStr media.mediaName.media)
    (fps : List RTCDtlsFingerprint) (c : SocketAddr) (ice : RTCIceParameters) (role : ConnectionRole)
    (i : Nat) : (sectionMedia fps c ice role i s).mediaName.media = media.mediaName.media := by
  rw [sectionMedia_media]
  obtain ⟨v, hMid, ⟨hApp, rfl⟩ | ⟨hIs, r, hFind, rfl⟩⟩ := remoteSection_eq_some hs
  · exact hApp.symm
  · obtain ⟨hMem, hTMid, -⟩ := findTransceiver_some hFind
    dsimp only
    rw [hKind _ hMem (hTMid ▸ hMid) hIs]
    exact RTPCodecType.toString_fromStr (isMediaSection_iff.mp hIs).2.1

/-- An answer keeps, one for one and in order, the `m=` type of every retained remote
section (RFC 3264 §6), provided each local transceiver has the kind of the remote media
section that names its mid: the matcher pairs sections by mid alone and answers with the
transceiver's kind. -/
theorem generateMatchedSdp_answer_media {self : Session} {origin : Origin}
    {R : RTCSessionDescription} {ice : RTCIceParameters} {ts : List RTCRtpTransceiver}
    {useIdentity : Bool} {role : ConnectionRole} {d : SessionDescription}
    (h : (self.generateMatchedSdp origin order R ice ts useIdentity false role).2 = .ok d)
    (hKinds : ∀ media ∈ remoteMedia R, ∀ t ∈ ts, getMidValue media = some t.mid →
      isMediaSection media = true → t.kind = RTPCodecType.fromStr media.mediaName.media) :
    List.Forall₂ (fun media md => md.mediaName.media = media.mediaName.media)
      ((remoteMedia R).filter isRetained) d.mediaDescriptions := by
  obtain ⟨hNo, cert, -, hMedia⟩ := generateMatchedSdp_media h
  rw [hMedia, matchedSections_answer, List.enum]
  exact forall₂_enumFrom_map (fun media s i (hs : media ∈ remoteMedia R ∧
      remoteSection order ts false media = some s) => remoteSection_answer_media hs.2 (hKinds media hs.1) _ _ _ _ i) 0
    ((List.forall₂_and_left _ _).mpr ⟨fun media hm => (List.mem_filter.mp hm).1, retained_remoteSections hNo⟩)

/-- A remote audio section answered on a local audio transceiver of the same mid. -/
theorem generateMatchedSdp_answer_media_audio :
    (∀ media ∈ remoteMedia ⟨.offer, "", some ⟨⟨1, 1⟩, [],
          [⟨⟨"audio", ⟨9, none⟩, [], []⟩, none, [⟨"mid", some "0"⟩, ⟨"sendrecv", none⟩]⟩]⟩⟩,
        ∀ t ∈ [(⟨"0", ⟨none, 1, none, [], false⟩, .sendrecv,
          [⟨⟨"audio/opus", 48000, 2, "", []⟩, 111⟩], .audio⟩ : RTCRtpTransceiver)],
        getMidValue media = some t.mid → isMediaSection media = true →
          t.kind = RTPCodecType.fromStr media.mediaName.media) ∧
      ∃ d, (Session.generateMatchedSdp ⟨1, ⟨"10.0.0.1", 5000⟩, [⟨[⟨"sha-256", "AB"⟩]⟩], []⟩ ⟨1, 1⟩ .insertion
          ⟨.offer, "", some ⟨⟨1, 1⟩, [],
            [⟨⟨"audio", ⟨9, none⟩, [], []⟩, none, [⟨"mid", some "0"⟩, ⟨"sendrecv", none⟩]⟩]⟩⟩
          ⟨"u", "p"⟩
          [⟨"0", ⟨none, 1, none, [], false⟩, .sendrecv, [⟨⟨"audio/opus", 48000, 2, "", []⟩, 111⟩], .audio⟩]
          false false .passive).2 = .ok d ∧
        List.Forall₂ (fun media md => md.mediaName.media = media.mediaName.media)
          ((remoteMedia ⟨.offer, "", some ⟨⟨1, 1⟩, [],
            [⟨⟨"audio", ⟨9, none⟩, [], []⟩, none, [⟨"mid", some "0"⟩, ⟨"sendrecv", none⟩]⟩]⟩⟩).filter isRetained)
          d.mediaDescriptions :=
  have hKinds : ∀ media ∈ remoteMedia ⟨.offer, "", some ⟨⟨1, 1⟩, [],
        [⟨⟨"audio", ⟨9, none⟩, [], []⟩, none, [⟨"mid", some "0"⟩, ⟨"sendrecv", none⟩]⟩]⟩⟩,
      ∀ t ∈ [(⟨"0", ⟨none, 1, none, [], false⟩, .sendrecv,
        [⟨⟨"audio/opus", 48000, 2, "", []⟩, 111⟩], .audio⟩ : RTCRtpTransceiver)],
      getMidValue media = some t.mid → isMediaSection media = true →
        t.kind = RTPCodecType.fromStr media.mediaName.media := by
    simp [remoteMedia, RTPCodecType.fromStr]
  ⟨hKinds, Exists.imp (fun _ h => ⟨h, generateMatchedSdp_answer_media h hKinds⟩) ⟨_, rfl⟩⟩

/-- Without that proviso the `m=` type changes: a remote audio section whose mid names a
local video transceiver is answered with a video section. -/
example : ∃ d, (Session.generateMatchedSdp ⟨1, ⟨"10.0.0.1", 5000⟩, [⟨[⟨"sha-256", "AB"⟩]⟩], []⟩ ⟨1, 1⟩ .insertion
      ⟨.offer, "", some ⟨⟨1, 1⟩, [],
        [⟨⟨"audio", ⟨9, none⟩, [], []⟩, none, [⟨"mid", some "0"⟩, ⟨"sendrecv", none⟩]⟩]⟩⟩
      ⟨"u", "p"⟩
      [⟨"0", ⟨none, 1, none, [], false⟩, .sendrecv, [⟨⟨"video/VP8", 90000, 0, "", []⟩, 96⟩], .video⟩]
      false false .passive).2 = .ok d ∧ d.mediaDescriptions.map (·.mediaName.media) = ["video"] :=
  ⟨_, rfl, rfl⟩

/-! ### The sections of an offer -/

/-- The synthetic data section's name, a printed count, is never empty. -/
theorem toString_nat_ne_empty (n : Nat) : toString n ≠ "" := by
  have hDigits : Nat.toDigitsCore 10 (n + 1) n [] ≠ [] := by
    unfold Nat.toDigitsCore
    dsimp only
    split_ifs
    · exact List.cons_ne_nil _ _
    · rw [← List.length_pos, Nat.toDigitsCore_lens_eq]
      omega
  exact fun h => hDigits (congrArg String.data h)

/-- What every section of an offer carries: it is a data section exactly when it has no
transceiver, it answers no offered direction, its transceiver is one of the caller's and
named by the section's id, and its id is empty only when some local mid is. -/
structure OfferedSection (localTransceivers : List RTCRtpTransceiver) (s : MediaSection) : Prop where
  wellFormed : s.data = true ↔ s.transceiver = none
  fresh : s.offeredDirection = none
  localMid : ∀ r, s.transceiver = some r → r.transceiver ∈ localTransceivers ∧ r.transceiver.mid = s.id
  id_ne : s.id = "" → ∃ t ∈ localTransceivers, t.mid = ""

/-- Every section the matcher builds for an offer is an offered section. -/
theorem matchedSections_offered {remote : List MediaDescription} {ts : List RTCRtpTransceiver}
    (h : ∀ m ∈ remote, ¬RejectsMedia ts m) : ∀ s ∈ matchedSections order remote ts true, OfferedSection ts s := by
  have hKept : ∀ s ∈ remote.filterMap (remoteSection order ts true), OfferedSection ts s := by
    intro s hs
    obtain ⟨media, hm, hS⟩ := List.mem_filterMap.mp hs
    obtain ⟨v, hMid, ⟨-, rfl⟩ | ⟨-, r, hFind, rfl⟩⟩ := remoteSection_eq_some hS
    all_goals refine ⟨by simp, rfl, ?_, fun hv => (h media hm (.inl (hv ▸ hMid))).elim⟩
    · exact fun _ h => by cases h
    · rintro _ ⟨⟩
      exact ⟨(findTransceiver_some hFind).1, (findTransceiver_some hFind).2.1⟩
  have hUnmatched : ∀ matched, ∀ s ∈ (appendUnmatched matched 0 ts).2, OfferedSection ts s := by
    intro matched s hs
    obtain ⟨j, t, ht, -, rfl⟩ := mem_appendUnmatched hs
    exact ⟨by simp, rfl, fun _ h => by cases h; exact ⟨ht, rfl⟩, fun hv => ⟨t, ht, hv⟩⟩
  intro s hs
  unfold matchedSections at hs
  simp only [if_true] at hs
  split at hs <;> simp only [List.mem_append, List.mem_singleton] at hs
  · exact hs.elim (hKept s) (hUnmatched _ s)
  · rcases hs with (hs | hs) | rfl
    exacts [hKept s hs, hUnmatched _ s hs,
      ⟨by simp, rfl, (fun _ h => by cases h), fun hv => absurd hv (toString_nat_ne_empty _)⟩]

/-- What an answer's media description keeps of the offered one it answers, as a peer
reads them: the `m=` type and formats, the mid, acceptance, and `sendrecv` where the offer
was `sendrecv`, `inactive` otherwise. -/
def AnswersOwnOffer (offered answered : MediaDescription) : Prop :=
  answered.mediaName.media = offered.mediaName.media ∧
    answered.mediaName.formats = offered.mediaName.formats ∧ getMidValue answered = getMidValue offered ∧
    answered.mediaName.port.value ≠ 0 ∧
    getPeerDirection answered = if getPeerDirection offered = .sendrecv then .sendrecv else .inactive

section Offered

variable {ts : List RTCRtpTransceiver} {fps : List RTCDtlsFingerprint} {c : SocketAddr}
  {ice : RTCIceParameters} {role : ConnectionRole} {i : Nat} {s : MediaSection}

/-- With no empty local mid, a matcher on the same transceivers rejects no offered
section. -/
theorem offered_not_rejects (hMids : ∀ t ∈ ts, t.mid ≠ "") (hs : OfferedSection ts s) :
    ¬RejectsMedia ts (sectionMedia fps c ice role i s) := by
  rw [RejectsMedia, sectionMedia_getMidValue hs.wellFormed]
  by_cases hAcc : s.accepted = true
  · simp only [hAcc, if_true, Option.some.injEq]
    rintro (hEmpty | ⟨_, rfl, -, hKind, hFind⟩)
    · obtain ⟨t, ht, hMid⟩ := hs.id_ne hEmpty
      exact hMids t ht hMid
    · cases hT : s.transceiver with
      | none => exact (isMediaSection_iff.mp hKind).1 (by rw [sectionMedia_media, hT])
      | some r =>
        obtain ⟨hMem, hMid⟩ := hs.localMid r hT
        exact findTransceiver_none.mp hFind _ hMem hMid
  · simp [hAcc]

/-- A matcher on the same transceivers with distinct mids, answering an offered section,
reads a section `populate_sdp` accepts, whose description keeps what `AnswersOwnOffer`
says of the offered one. -/
theorem remoteSection_offered (hLocal : (ts.map (·.mid)).Nodup) (hs : OfferedSection ts s)
    {s' : MediaSection} (h : remoteSection order ts false (sectionMedia fps c ice role i s) = some s')
    (fps' : List RTCDtlsFingerprint) (c' : SocketAddr) (ice' : RTCIceParameters) (role' : ConnectionRole)
    (j : Nat) :
    ¬s'.Invalid ∧ AnswersOwnOffer (sectionMedia fps c ice role i s) (sectionMedia fps' c' ice' role' j s') := by
  have hMid : getMidValue (sectionMedia fps c ice role i s) = if s.accepted then some s.id else none :=
    sectionMedia_getMidValue hs.wellFormed
  have hMedia : (sectionMedia fps c ice role i s).mediaName.media = _ := sectionMedia_media s
  have hFormats : (sectionMedia fps c ice role i s).mediaName.formats = _ := sectionMedia_formats s
  have hDirection : getPeerDirection (sectionMedia fps c ice role i s) = _ := sectionMedia_getPeerDirection s
  obtain ⟨v, hMidV, hS⟩ := remoteSection_eq_some h
  have hAcc : s.accepted = true := by
    by_contra hNot
    rw [hMid, if_neg hNot] at hMidV
    cases hMidV
  rw [hAcc, if_pos rfl] at hMid
  obtain rfl : v = s.id := Option.some.inj (hMidV.symm.trans hMid)
  cases hT : s.transceiver with
  | none =>
    rw [hT] at hMedia hFormats hDirection
    rcases hS with ⟨-, rfl⟩ | ⟨hKind, -⟩
    · have hWell' : (({ id := s.id, data := true } : MediaSection).data = true ↔
          ({ id := s.id, data := true } : MediaSection).transceiver = none) := by simp
      refine ⟨by simp [MediaSection.Invalid], by rw [sectionMedia_media, hMedia],
        by rw [sectionMedia_formats, hFormats], by rw [sectionMedia_getMidValue hWell', hMid]; rfl, ?_, ?_⟩
      · simpa [MediaSection.accepted] using (@sectionMedia_builtFrom fps' c' ice' role' j _ hWell').1.rejected
      · rw [sectionMedia_getPeerDirection, hDirection]
        rfl
    · exact absurd hMedia (isMediaSection_iff.mp hKind).1
  | some r =>
    have hCodecs : r.transceiver.codecs ≠ [] := by
      have hData : s.data = false := by simpa [hT] using hs.wellFormed
      simpa [MediaSection.accepted, hData, hT] using hAcc
    simp only [hT, hCodecs, if_false, hs.fresh] at hMedia hFormats hDirection
    replace hDirection : getPeerDirection (sectionMedia fps c ice role i s) = r.transceiver.direction :=
      hDirection
    rcases hS with ⟨hApp, -⟩ | ⟨hKind, r', hFind, rfl⟩
    · exact absurd (hMedia ▸ hApp) (toString_ne_application _)
    have hSame : r'.transceiver = r.transceiver := by
      obtain ⟨hMem', hMid', -⟩ := findTransceiver_some hFind
      obtain ⟨hMem, hMidR⟩ := hs.localMid r hT
      exact List.inj_on_of_nodup_map hLocal hMem' hMem (hMid'.trans hMidR.symm)
    have hCodecs' : r'.transceiver.codecs ≠ [] := hSame ▸ hCodecs
    have hKnown : r.transceiver.direction ≠ .unspecified := hDirection ▸ (isMediaSection_iff.mp hKind).2.2
    have hAcc' : ∀ s'' : MediaSection, s''.transceiver = some r' → s''.accepted = true :=
      fun _ h => by simp [MediaSection.accepted, h, hCodecs']
    refine ⟨by simp [MediaSection.Invalid, hCodecs'], ?_, ?_, ?_, ?_, ?_⟩
    · rw [sectionMedia_media, hMedia]
      dsimp only
      rw [hSame]
    · rw [sectionMedia_formats, hFormats]
      dsimp only
      rw [hSame, if_neg hCodecs]
    · rw [sectionMedia_getMidValue (by simp), hMid, hAcc' _ rfl]
      rfl
    · exact fun h0 => absurd ((@sectionMedia_builtFrom fps' c' ice' role' j _ (by simp)).1.rejected.mp h0)
        (by simp [MediaSection.accepted, hCodecs'])
    · rw [sectionMedia_getPeerDirection, hDirection]
      dsimp only
      rw [hSame, if_neg hCodecs]
      exact answerDirection_self hKnown

end Offered

/-- The engine's answer, on the same transceivers, to an offer it made: with distinct,
non-empty local mids it succeeds, and its media descriptions are, one for one and in
order, the offered ones a peer retains (those with a mid, and a known kind and direction
or an application line), each keeping what `AnswersOwnOffer` says. -/
theorem generateMatchedSdp_answers_own_offer {self : Session} {origin origin' : Origin} {order' : IterationOrder}
    {R : RTCSessionDescription} {ice ice' : RTCIceParameters} {ts : List RTCRtpTransceiver}
    {useIdentity useIdentity' : Bool} {role role' : ConnectionRole} {d : SessionDescription}
    (hOffer : (self.generateMatchedSdp origin order R ice ts useIdentity true role).2 = .ok d)
    (hMids : ∀ t ∈ ts, t.mid ≠ "") (hLocal : (ts.map (·.mid)).Nodup) (sdpType : RTCSdpType) (sdp : String) :
    ∃ d', (self.generateMatchedSdp origin' order' ⟨sdpType, sdp, some d⟩ ice' ts useIdentity' false role').2 = .ok d' ∧
      List.Forall₂ AnswersOwnOffer (d.mediaDescriptions.filter isRetained) d'.mediaDescriptions := by
  obtain ⟨hNo, cert, hCert, hMedia⟩ := generateMatchedSdp_media hOffer
  have hBuilt : ∀ omd ∈ d.mediaDescriptions, ∃ i s, OfferedSection ts s ∧
      omd = sectionMedia cert.getFingerprints self.localAddr ice role i s := by
    intro omd hm
    rw [hMedia] at hm
    obtain ⟨⟨i, s⟩, hp, rfl⟩ := List.mem_map.mp hm
    exact ⟨i, s, matchedSections_offered hNo s (List.snd_mem_of_mem_enum hp), rfl⟩
  have hNo' : ∀ omd ∈ d.mediaDescriptions, ¬RejectsMedia ts omd := fun omd hm => by
    obtain ⟨i, s, hs, rfl⟩ := hBuilt omd hm
    exact offered_not_rejects hMids hs
  have hValid : ∀ s' ∈ matchedSections order' d.mediaDescriptions ts false, ¬s'.Invalid := fun s' hs' => by
    obtain ⟨omd, hm, hS⟩ := List.mem_filterMap.mp hs'
    obtain ⟨i, s, hs, rfl⟩ := hBuilt omd hm
    exact (remoteSection_offered hLocal hs hS [] self.localAddr ice' role' 0).1
  obtain ⟨d', hPop⟩ : ∃ d', populateSdp (.newJsepSessionDescription origin' useIdentity') cert.getFingerprints
      self.localAddr ice' role' (matchedSections order' d.mediaDescriptions ts false) true = .ok d' := by
    cases hP : populateSdp (.newJsepSessionDescription origin' useIdentity') cert.getFingerprints
        self.localAddr ice' role' (matchedSections order' d.mediaDescriptions ts false) true with
    | error e =>
      obtain ⟨s', hs', hInvalid⟩ := populateSdp_error.1.mp ⟨e, hP⟩
      exact absurd hInvalid (hValid s' hs')
    | ok d' => exact ⟨d', rfl⟩
  refine ⟨d', ?_, ?_⟩
  · rw [generateMatchedSdp_eq, @matchMediaSections_eq order' ⟨sdpType, sdp, some d⟩ ts false hNo']
    simpa only [bind, Except.bind, hCert] using hPop
  · rw [populateSdp_media hPop, SessionDescription.newJsepSessionDescription_mediaDescriptions,
      List.nil_append, if_pos rfl, matchedSections_answer, List.enum]
    refine forall₂_enumFrom_map (fun omd s' j (h : omd ∈ d.mediaDescriptions ∧
      remoteSection order' ts false omd = some s') => ?_) 0
      ((List.forall₂_and_left _ _).mpr ⟨fun omd hm => (List.mem_filter.mp hm).1, retained_remoteSections hNo'⟩)
    obtain ⟨i, s, hs, rfl⟩ := hBuilt omd h.1
    exact (remoteSection_offered hLocal hs h.2 _ _ _ _ j).2

/-- An offer of a `sendrecv` audio and a `sendonly` video transceiver, with no remote
description, answered on the same transceivers. -/
theorem generateMatchedSdp_answers_own_offer_audio_video :
    ∃ d, (Session.generateMatchedSdp ⟨1, ⟨"10.0.0.1", 5000⟩, [⟨[⟨"sha-256", "AB"⟩]⟩], []⟩ ⟨1, 1⟩ .insertion
        ⟨.unspecified, "", none⟩ ⟨"u", "p"⟩
        [⟨"0", ⟨none, 1, none, [], false⟩, .sendrecv, [⟨⟨"audio/opus", 48000, 2, "", []⟩, 111⟩], .audio⟩,
         ⟨"1", ⟨none, 2, none, [], false⟩, .sendonly, [⟨⟨"video/VP8", 90000, 0, "", []⟩, 96⟩], .video⟩]
        false true .active).2 = .ok d ∧
      (∀ t ∈ [(⟨"0", ⟨none, 1, none, [], false⟩, .sendrecv, [⟨⟨"audio/opus", 48000, 2, "", []⟩, 111⟩], .audio⟩ :
          RTCRtpTransceiver),
         ⟨"1", ⟨none, 2, none, [], false⟩, .sendonly, [⟨⟨"video/VP8", 90000, 0, "", []⟩, 96⟩], .video⟩],
        t.mid ≠ "") ∧
      ([(⟨"0", ⟨none, 1, none, [], false⟩, .sendrecv, [⟨⟨"audio/opus", 48000, 2, "", []⟩, 111⟩], .audio⟩ :
          RTCRtpTransceiver),
         ⟨"1", ⟨none, 2, none, [], false⟩, .sendonly, [⟨⟨"video/VP8", 90000, 0, "", []⟩, 96⟩], .video⟩].map
          (·.mid)).Nodup ∧
      ∃ d', (Session.generateMatchedSdp ⟨1, ⟨"10.0.0.1", 5000⟩, [⟨[⟨"sha-256", "AB"⟩]⟩], []⟩ ⟨2, 2⟩ .insertion
          ⟨.offer, "", some d⟩ ⟨"u2", "p2"⟩
          [⟨"0", ⟨none, 1, none, [], false⟩, .sendrecv, [⟨⟨"audio/opus", 48000, 2, "", []⟩, 111⟩], .audio⟩,
           ⟨"1", ⟨none, 2, none, [], false⟩, .sendonly, [⟨⟨"video/VP8", 90000, 0, "", []⟩, 96⟩], .video⟩]
          false false .passive).2 = .ok d' ∧
        List.Forall₂ AnswersOwnOffer (d.mediaDescriptions.filter isRetained) d'.mediaDescriptions :=
  Exists.imp (fun _ h => ⟨h, by decide, by decide,
    generateMatchedSdp_answers_own_offer h (by decide) (by decide) .offer ""⟩) ⟨_, rfl⟩

/-- An offer on transceivers with distinct mids offers every transceiver that has codecs,
on its own mid, with its kind, its payload types as formats, and advertising its
direction; and every media section it offers under a local mid is that transceiver's. -/
theorem generateMatchedSdp_offer_transceivers {self : Session} {origin : Origin}
    {R : RTCSessionDescription} {ice : RTCIceParameters} {ts : List RTCRtpTransceiver}
    {useIdentity : Bool} {role : ConnectionRole} {d : SessionDescription}
    (h : (self.generateMatchedSdp origin order R ice ts useIdentity true role).2 = .ok d)
    (hLocal : (ts.map (·.mid)).Nodup) :
    (∀ t ∈ ts, t.codecs ≠ [] → ∃ md ∈ d.mediaDescriptions, getMidValue md = some t.mid ∧
      md.mediaName.media = toString t.kind ∧
      md.mediaName.formats = t.codecs.map (fun codec => toString codec.payloadType) ∧
      getPeerDirection md = t.direction) ∧
    ∀ md ∈ d.mediaDescriptions, ∀ t ∈ ts, getMidValue md = some t.mid →
      md.mediaName.media ≠ mediaSectionApplication →
      md.mediaName.media = toString t.kind ∧
      md.mediaName.formats = t.codecs.map (fun codec => toString codec.payloadType) ∧
      getPeerDirection md = t.direction := by
  obtain ⟨hNo, cert, -, hMedia⟩ := generateMatchedSdp_media h
  -- what a section on `t` reads back as
  have hOn : ∀ s t r i, OfferedSection ts s → s.transceiver = some r → r.transceiver = t → t.codecs ≠ [] →
      getMidValue (sectionMedia cert.getFingerprints self.localAddr ice role i s) = some t.mid ∧
      (sectionMedia cert.getFingerprints self.localAddr ice role i s).mediaName.media = toString t.kind ∧
      (sectionMedia cert.getFingerprints self.localAddr ice role i s).mediaName.formats =
        t.codecs.map (fun codec => toString codec.payloadType) ∧
      getPeerDirection (sectionMedia cert.getFingerprints self.localAddr ice role i s) = t.direction := by
    rintro s t r i hs hT rfl hCodecs
    refine ⟨?_, by rw [sectionMedia_media, hT], by rw [sectionMedia_formats, hT]; exact if_neg hCodecs, ?_⟩
    · rw [sectionMedia_getMidValue hs.wellFormed, (hs.localMid r hT).2]
      simp [MediaSection.accepted, hT, hCodecs]
    · rw [sectionMedia_getPeerDirection, hT]
      simp only [hCodecs, if_false, hs.fresh]
      rfl
  refine ⟨fun t ht hCodecs => ?_, fun md hm t ht hMid hApp => ?_⟩
  · obtain ⟨r, hr, hSame⟩ : ∃ r ∈ (matchedSections order (remoteMedia R) ts true).filterMap (·.transceiver),
        r.transceiver = t := by
      refine (matchedSections_references hNo (· = t)).mpr ?_
      by_cases hRemote : ∃ m ∈ remoteMedia R, isMediaSection m = true ∧ getMidValue m = some t.mid
      · obtain ⟨m, hm, hKind, hMid⟩ := hRemote
        obtain ⟨r, hFind⟩ := Option.ne_none_iff_exists'.mp
          fun hNone => findTransceiver_none.mp hNone t ht rfl
        obtain ⟨hMem, hMidR, -⟩ := findTransceiver_some hFind
        exact .inl ⟨m, hm, t.mid, r, hMid, hKind, hFind, List.inj_on_of_nodup_map hLocal hMem ht hMidR⟩
      · exact .inr ⟨rfl, t, ht, fun m hm hKind hMid => hRemote ⟨m, hm, hKind, hMid⟩, rfl⟩
    obtain ⟨s, hs, hT⟩ := List.mem_filterMap.mp hr
    obtain ⟨i, hi⟩ := List.mem_iff_getElem?.mp hs
    refine ⟨_, ?_, hOn s t r i (matchedSections_offered hNo s hs) hT hSame hCodecs⟩
    rw [hMedia]
    exact List.mem_map.mpr ⟨(i, s), List.mem_enum_iff_getElem?.mpr hi, rfl⟩
  · rw [hMedia] at hm
    obtain ⟨⟨i, s⟩, hp, rfl⟩ := List.mem_map.mp hm
    have hs := matchedSections_offered hNo s (List.snd_mem_of_mem_enum hp)
    rw [sectionMedia_getMidValue hs.wellFormed] at hMid
    have hAcc : s.accepted = true := by by_contra hNot; simp [hNot] at hMid
    rw [hAcc, if_pos rfl, Option.some.injEq] at hMid
    cases hT : s.transceiver with
    | none => exact absurd (by rw [sectionMedia_media, hT]) hApp
    | some r =>
      obtain ⟨hMem, hMidR⟩ := hs.localMid r hT
      have hSame : r.transceiver = t := List.inj_on_of_nodup_map hLocal hMem ht (hMidR.trans hMid)
      have hCodecs : t.codecs ≠ [] := by
        have hData : s.data = false := by simpa [hT] using hs.wellFormed
        simpa [MediaSection.accepted, hData, hT, hSame] using hAcc
      exact (hOn s t r i hs hT hSame hCodecs).2

/-- The offer of a `sendrecv` audio and a `sendonly` video transceiver, with no remote
description. -/
theorem generateMatchedSdp_offer_transceivers_audio_video :
    ∃ d, (Session.generateMatchedSdp ⟨1, ⟨"10.0.0.1", 5000⟩, [⟨[⟨"sha-256", "AB"⟩]⟩], []⟩ ⟨1, 1⟩ .insertion
        ⟨.unspecified, "", none⟩ ⟨"u", "p"⟩
        [⟨"0", ⟨none, 1, none, [], false⟩, .sendrecv, [⟨⟨"audio/opus", 48000, 2, "", []⟩, 111⟩], .audio⟩,
         ⟨"1", ⟨none, 2, none, [], false⟩, .sendonly, [⟨⟨"video/VP8", 90000, 0, "", []⟩, 96⟩], .video⟩]
        false true .active).2 = .ok d ∧
      ([(⟨"0", ⟨none, 1, none, [], false⟩, .sendrecv, [⟨⟨"audio/opus", 48000, 2, "", []⟩, 111⟩], .audio⟩ :
          RTCRtpTransceiver),
         ⟨"1", ⟨none, 2, none, [], false⟩, .sendonly, [⟨⟨"video/VP8", 90000, 0, "", []⟩, 96⟩], .video⟩].map
          (·.mid)).Nodup ∧
      (∀ t ∈ [(⟨"0", ⟨none, 1, none, [], false⟩, .sendrecv, [⟨⟨"audio/opus", 48000, 2, "", []⟩, 111⟩], .audio⟩ :
          RTCRtpTransceiver),
         ⟨"1", ⟨none, 2, none, [], false⟩, .sendonly, [⟨⟨"video/VP8", 90000, 0, "", []⟩, 96⟩], .video⟩],
        t.codecs ≠ [] → ∃ md ∈ d.mediaDescriptions, getMidValue md = some t.mid ∧
          md.mediaName.media = toString t.kind ∧
          md.mediaName.formats = t.codecs.map (fun codec => toString codec.payloadType) ∧
          getPeerDirection md = t.direction) ∧
      ∀ md ∈ d.mediaDescriptions,
        ∀ t ∈ [(⟨"0", ⟨none, 1, none, [], false⟩, .sendrecv, [⟨⟨"audio/opus", 48000, 2, "", []⟩, 111⟩], .audio⟩ :
            RTCRtpTransceiver),
           ⟨"1", ⟨none, 2, none, [], false⟩, .sendonly, [⟨⟨"video/VP8", 90000, 0, "", []⟩, 96⟩], .video⟩],
          getMidValue md = some t.mid → md.mediaName.media ≠ mediaSectionApplication →
          md.mediaName.media = toString t.kind ∧
          md.mediaName.formats = t.codecs.map (fun codec => toString codec.payloadType) ∧
          getPeerDirection md = t.direction :=
  Exists.imp (fun _ h => ⟨h, by decide, generateMatchedSdp_offer_transceivers h (by decide)⟩) ⟨_, rfl⟩

end Sfu
