import Sfu.Description.Populate

/-! What a reader of remote sections, `get_mid_value`, `get_peer_direction` and the kind of
the `m=` line, reads back from a section `populate_sdp` builds: the section's id when it
is accepted, its transceiver's kind, and the direction the builder advertised. These are
what the engine itself sees when a peer running it answers the description. -/
namespace Sfu

open Sdp

theorem getMidValue_eq (media : MediaDescription) :
    getMidValue media = ((media.attributesWithKey attrKeyMid).head?).bind (·.value) := by
  rw [getMidValue, MediaDescription.attributesWithKey, List.filter_head?]
  rfl

/-- Descriptions built from sections read back, in order, the ids of the accepted ones. -/
theorem filterMap_getMidValue_of_builtFrom {S : List MediaSection} {mds : List MediaDescription}
    (h : List.Forall₂ BuiltFrom S mds) : mds.filterMap getMidValue = (S.filter (·.accepted)).map (·.id) := by
  induction h with
  | nil => rfl
  | @cons s md _ _ hb _ ih =>
    have hMid : getMidValue md = if s.accepted then some s.id else none := by
      rw [getMidValue_eq, hb.mid]
      split <;> rfl
    by_cases hs : s.accepted <;> simp [hMid, hs, ih]

@[simp] theorem RTPCodecType.fromStr_toString {kind : RTPCodecType} (h : kind ≠ .unspecified) :
    RTPCodecType.fromStr (toString kind) = kind := by
  cases kind
  · exact absurd rfl h
  all_goals rfl

/-- The codecs a section advertises: its transceiver's, and none for a data section. -/
def MediaSection.codecs (s : MediaSection) : List RTCRtpCodecParameters :=
  match s.transceiver with
  | none => []
  | some r => r.transceiver.codecs

theorem RTPCodecType.toString_fromStr {raw : String} (h : RTPCodecType.fromStr raw ≠ .unspecified) :
    toString (RTPCodecType.fromStr raw) = raw := by
  unfold RTPCodecType.fromStr at *
  split_ifs at h ⊢ <;> simp_all <;> rfl

section Readback

variable {fps : List RTCDtlsFingerprint} {c : SocketAddr} {ice : RTCIceParameters}
  {role : ConnectionRole} {i : Nat}

/-- A built section reads back its id as its mid exactly when it is accepted. -/
theorem sectionMedia_getMidValue {s : MediaSection} (hWell : s.data = true ↔ s.transceiver = none) :
    getMidValue (sectionMedia fps c ice role i s) = if s.accepted then some s.id else none := by
  rw [getMidValue_eq, (sectionMedia_builtFrom hWell).1.mid]
  split <;> rfl

/-- A built section's `m=` type: `application` for a data section, otherwise its
transceiver's kind, rejected or not. -/
theorem sectionMedia_media (s : MediaSection) :
    (sectionMedia fps c ice role i s).mediaName.media =
      match s.transceiver with
      | none => mediaSectionApplication
      | some r => toString r.transceiver.kind := by
  unfold sectionMedia
  cases s.transceiver with
  | none => rw [(candidateStep_keeps (dataMediaDescription_candidateFree _ _)).1, dataMediaDescription_mediaName]
  | some r =>
    dsimp only
    split
    · rfl
    · rw [(candidateStep_keeps (transceiverMedia_candidateFree _ _ _ _ _)).1]
      exact (transceiverMedia_mediaName _ _ _ _ _).1

/-- A built section's formats: the data channel for a data section, `0` for the rejection
block, and otherwise its transceiver's payload types in order. -/
theorem sectionMedia_formats (s : MediaSection) :
    (sectionMedia fps c ice role i s).mediaName.formats =
      match s.transceiver with
      | none => ["webrtc-datachannel"]
      | some r => if r.transceiver.codecs = [] then ["0"]
          else r.transceiver.codecs.map fun codec => toString codec.payloadType := by
  unfold sectionMedia
  cases s.transceiver with
  | none => rw [(candidateStep_keeps (dataMediaDescription_candidateFree _ _)).1, dataMediaDescription_mediaName]
  | some r =>
    dsimp only
    by_cases hCodecs : r.transceiver.codecs = []
    · simp [hCodecs, rejectedMediaDescription]
    · have hFull : r.transceiver.codecs.isEmpty = false := by simpa using hCodecs
      simp only [hFull, hCodecs, Bool.false_eq_true, if_false]
      rw [(candidateStep_keeps (transceiverMedia_candidateFree _ _ _ _ _)).1, transceiverMedia_formats]

/-- The direction a built section advertises: `sendrecv` for a data section, none for a
rejected one, and otherwise the answer to the section's offered direction. -/
theorem sectionMedia_getPeerDirection (s : MediaSection) :
    getPeerDirection (sectionMedia fps c ice role i s) =
      match s.transceiver with
      | none => .sendrecv
      | some r => if r.transceiver.codecs = [] then .unspecified
          else answerDirection s.offeredDirection r.transceiver.direction := by
  have hCandidate : ∀ e : RTCRtpTransceiverDirection, toString e ≠ "candidate" ∧
      toString e ≠ "end-of-candidates" := fun e => ⟨direction_key_ne e (by decide), direction_key_ne e (by decide)⟩
  unfold sectionMedia
  cases s.transceiver with
  | none =>
    refine getPeerDirection_of_lines fun e _ => ?_
    rw [(candidateStep_keeps (dataMediaDescription_candidateFree _ _)).2 _ (hCandidate e).1 (hCandidate e).2,
      dataMediaDescription_direction]
  | some r =>
    dsimp only
    by_cases hCodecs : r.transceiver.codecs = []
    · simp only [hCodecs, List.isEmpty_nil, if_true]
      exact getPeerDirection_of_lines fun e he => by
        simp [rejectedMediaDescription, MediaDescription.attributesWithKey, he]
    · have hFull : r.transceiver.codecs.isEmpty = false := by simpa using hCodecs
      simp only [hFull, hCodecs, Bool.false_eq_true, if_false]
      refine getPeerDirection_of_lines fun e _ => ?_
      rw [(candidateStep_keeps (transceiverMedia_candidateFree _ _ _ _ _)).2 _ (hCandidate e).1
        (hCandidate e).2, transceiverMedia_direction]

/-- The transport lines of a built section: an accepted one carries the DTLS role and the
ICE credentials once each, the rejection block none, so every accepted section of a
description names the one transport its BUNDLE group shares. -/
theorem sectionMedia_transport {s : MediaSection} (hWell : s.data = true ↔ s.transceiver = none) :
    (sectionMedia fps c ice role i s).attributesWithKey attrKeyConnectionSetup =
        (if s.accepted then [⟨attrKeyConnectionSetup, some (toString role)⟩] else []) ∧
      (sectionMedia fps c ice role i s).attributesWithKey "ice-ufrag" =
        (if s.accepted then [⟨"ice-ufrag", some ice.usernameFragment⟩] else []) ∧
      (sectionMedia fps c ice role i s).attributesWithKey "ice-pwd" =
        (if s.accepted then [⟨"ice-pwd", some ice.password⟩] else []) := by
  unfold sectionMedia
  cases hT : s.transceiver with
  | none =>
    have hAcc : s.accepted = true := by simp [MediaSection.accepted, hWell.mpr hT]
    obtain ⟨-, hKeys⟩ := candidateStep_keeps (c := c) (b := i == 0)
      (dataMediaDescription_candidateFree fps ⟨i == 0, s.id, ice, role, .complete⟩)
    simp only [hAcc, if_true]
    refine ⟨?_, ?_, ?_⟩ <;>
    · rw [hKeys _ (by decide) (by decide), dataMediaDescription, withFingerprints_keeps _ (by decide)]
      simp [MediaDescription.attributesWithKey, attrKeyMid, attrKeyConnectionSetup]
  | some r =>
    have hData : s.data = false := by simpa [hT] using hWell
    dsimp only
    split
    · rename_i hEmpty
      have hAcc : s.accepted = false := by simp [MediaSection.accepted, hData, hT, hEmpty]
      simp [hAcc, rejectedMediaDescription, MediaDescription.attributesWithKey]
    · rename_i hFull
      have hAcc : s.accepted = true := by simp [MediaSection.accepted, hT, hFull]
      obtain ⟨-, hKeys⟩ := candidateStep_keeps (c := c) (b := i == 0)
        (transceiverMedia_candidateFree fps ice s ⟨i == 0, s.id, role, .complete, s.offeredDirection⟩ r.transceiver)
      simp only [hAcc, if_true]
      refine ⟨?_, ?_, ?_⟩ <;>
      · rw [hKeys _ (by decide) (by decide), transceiverMedia_attributesWithKey _ _ _ _ _ (by decide) (by decide)
          (by decide) (by decide) (direction_key_ne · (by decide)) (by decide)]
        simp [transceiverMediaBase, attrKeyMid, attrKeyConnectionSetup, attrKeyRtcpmux, attrKeyRtcprsize]

/-- A built section's codec lines: one `a=rtpmap` per codec of its transceiver, in the
order of its formats, with each codec's `a=fmtp` and `a=rtcp-fb` lines; none on a data
section, and none on the rejection block of a transceiver without codecs. -/
theorem sectionMedia_codecLines (s : MediaSection) :
    (sectionMedia fps c ice role i s).attributesWithKey "rtpmap" = s.codecs.map rtpmapAttribute ∧
      (sectionMedia fps c ice role i s).attributesWithKey "fmtp" = s.codecs.flatMap fmtpAttributes ∧
      (sectionMedia fps c ice role i s).attributesWithKey "rtcp-fb" = s.codecs.flatMap rtcpFbAttributes := by
  unfold sectionMedia MediaSection.codecs
  cases s.transceiver with
  | none =>
    obtain ⟨-, hKeys⟩ := candidateStep_keeps (c := c) (b := i == 0)
      (dataMediaDescription_candidateFree fps ⟨i == 0, s.id, ice, role, .complete⟩)
    refine ⟨?_, ?_, ?_⟩ <;>
    · rw [hKeys _ (by decide) (by decide), dataMediaDescription, withFingerprints_keeps _ (by decide)]
      simp [MediaDescription.attributesWithKey, attrKeyMid, attrKeyConnectionSetup]
  | some r =>
    dsimp only
    split
    · rename_i hEmpty
      simp [List.isEmpty_iff.mp hEmpty, rejectedMediaDescription, MediaDescription.attributesWithKey]
    · obtain ⟨-, hKeys⟩ := candidateStep_keeps (c := c) (b := i == 0)
        (transceiverMedia_candidateFree fps ice s ⟨i == 0, s.id, role, .complete, s.offeredDirection⟩ r.transceiver)
      rw [hKeys _ (by decide) (by decide), hKeys _ (by decide) (by decide), hKeys _ (by decide) (by decide)]
      exact transceiverMedia_codecLines _ _ _ _ _

/-- A built section's sender lines: for a transceiver with codecs, the `a=msid` lines of its
sender and the source lines of its track; none on a data section or a rejection block. -/
theorem sectionMedia_senderLines (s : MediaSection) :
    attributesWithMsidKey (sectionMedia fps c ice role i s) =
        (match s.transceiver with
          | none => []
          | some r => if r.transceiver.codecs = [] then [] else msidAttributes r.transceiver.sender) ∧
      (sectionMedia fps c ice role i s).attributesWithKey "ssrc" =
        (match s.transceiver with
          | none => []
          | some r => if r.transceiver.codecs = [] then []
              else (r.transceiver.sender.track.map (ssrcAttributes r.transceiver.sender.ssrc)).getD []) := by
  unfold sectionMedia
  cases s.transceiver with
  | none =>
    obtain ⟨-, hKeys⟩ := candidateStep_keeps (c := c) (b := i == 0)
      (dataMediaDescription_candidateFree fps ⟨i == 0, s.id, ice, role, .complete⟩)
    rw [candidateStep_msid, hKeys _ (by decide) (by decide)]
    exact dataMediaDescription_senderLines _ _
  | some r =>
    dsimp only
    split
    · rename_i hEmpty
      simp [List.isEmpty_iff.mp hEmpty, rejectedMediaDescription, attributesWithMsidKey,
        MediaDescription.attributesWithKey]
    · rename_i hFull
      have hCodecs : r.transceiver.codecs ≠ [] := by simpa using hFull
      obtain ⟨-, hKeys⟩ := candidateStep_keeps (c := c) (b := i == 0)
        (transceiverMedia_candidateFree fps ice s ⟨i == 0, s.id, role, .complete, s.offeredDirection⟩ r.transceiver)
      rw [candidateStep_msid, hKeys _ (by decide) (by decide), if_neg hCodecs, if_neg hCodecs]
      exact ⟨transceiverMedia_msid _ _ _ _ _, transceiverMedia_ssrc _ _ _ _ _⟩

/-- A data section's description, whole: the data-channel `m=` and `c=` lines, then its
lines in order, then only host candidate lines and the marker, and those in the first
section alone. -/
theorem sectionMedia_data {s : MediaSection} (hT : s.transceiver = none) :
    (sectionMedia fps c ice role i s).mediaName =
        ⟨mediaSectionApplication, ⟨9, none⟩, ["UDP", "DTLS", "SCTP"], ["webrtc-datachannel"]⟩ ∧
      (sectionMedia fps c ice role i s).connectionInformation = some placeholderConnection ∧
      ∃ added, (sectionMedia fps c ice role i s).attributes =
          dataSectionAttributes role s.id ice ++ fps.map fingerprintAttribute ++ added ∧
        added.Sublist [candidateAttribute c 1, candidateAttribute c 2, endOfCandidatesAttribute] ∧
        (i ≠ 0 → added = []) := by
  rw [sectionMedia, hT]
  dsimp only
  set md := dataMediaDescription fps ⟨i == 0, s.id, ice, role, .complete⟩
  obtain ⟨added, hAdded, hSub, hNone⟩ := candidateStep_attributes c (i == 0) .complete md
  have hLines : (candidateStep c (i == 0) .complete md).mediaName = md.mediaName ∧
      (candidateStep c (i == 0) .complete md).connectionInformation = md.connectionInformation := by
    unfold candidateStep
    split
    · exact ⟨(withHostCandidates_extends c md _).1, (withHostCandidates_extends c md _).2.1⟩
    · exact ⟨rfl, rfl⟩
  rw [hLines.1, hLines.2, hAdded, dataMediaDescription_attributes]
  exact ⟨dataMediaDescription_mediaName _ _, dataMediaDescription_connectionInformation _ _, added, rfl, hSub,
    fun hi => hNone (by simpa using hi)⟩

end Readback

end Sfu
