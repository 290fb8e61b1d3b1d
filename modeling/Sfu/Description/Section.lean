import Sfu.Description.Attributes

/-! The two section builders. `add_transceiver_sdp` is cut into the phases its body runs
in (codecs, header extensions, rids, msid, direction, fingerprints, candidates), each
with a frame lemma saying which attribute keys it can add. -/
namespace Sfu

open Sdp

/-- `str::trim_start_matches`: strip `pat` from the front for as long as it matches. Each
strip shortens the text, so its length bounds the rounds. -/
def trimStartMatches (s pat : String) : String :=
  go s.length s
where
  go : Nat → String → String
    | 0, s => s
    | n + 1, s => if pat ≠ "" ∧ s.startsWith pat then go n (s.drop pat.length) else s

/-- Modelled from the spec: `Url::parse`; a malformed extension URI is fatal. A URI is
taken as well formed when it has a scheme. The builder only parses the extensions of
`RTCRtpParameters::default()`, of which there are none. -/
def urlParse (input : String) : Except Error String :=
  if input.contains ':' then .ok input else .error (.parseUrl input)

/-- The codec loop: one payload type per codec, its mime prefix stripped, then one
`a=rtcp-fb` per feedback mechanism. -/
def withCodecs (media : MediaDescription) (codecs : List RTCRtpCodecParameters) : MediaDescription :=
  codecs.foldl (fun media codec =>
    codec.capability.rtcpFeedback.foldl (fun media feedback =>
        media.withValueAttribute "rtcp-fb"
          (toString codec.payloadType ++ " " ++ feedback.typ ++ " " ++ feedback.parameter))
      (media.withCodec codec.payloadType
        (trimStartMatches (trimStartMatches codec.capability.mimeType "audio/") "video/")
        codec.capability.clockRate codec.capability.channels codec.capability.sdpFmtpLine))
    media

/-- The `a=rtpmap` line `with_codec` writes for a codec: its payload type, its encoding
name (the mime type without its `audio/` or `video/` prefix), its clock rate and, when
set, its channel count. -/
def rtpmapAttribute (codec : RTCRtpCodecParameters) : Attribute :=
  ⟨"rtpmap", some (toString codec.payloadType ++ " " ++
    trimStartMatches (trimStartMatches codec.capability.mimeType "audio/") "video/" ++ "/" ++
    toString codec.capability.clockRate ++
    (if codec.capability.channels > 0 then "/" ++ toString codec.capability.channels else ""))⟩

/-- The `a=fmtp` line of a codec that has format parameters. -/
def fmtpAttributes (codec : RTCRtpCodecParameters) : List Attribute :=
  if codec.capability.sdpFmtpLine.isEmpty then []
  else [⟨"fmtp", some (toString codec.payloadType ++ " " ++ codec.capability.sdpFmtpLine)⟩]

/-- The `a=rtcp-fb` lines of a codec, one per feedback mechanism. -/
def rtcpFbAttributes (codec : RTCRtpCodecParameters) : List Attribute :=
  codec.capability.rtcpFeedback.map fun feedback =>
    ⟨"rtcp-fb", some (toString codec.payloadType ++ " " ++ feedback.typ ++ " " ++ feedback.parameter)⟩

/-- Everything the codec loop writes for one codec, in order. -/
def codecAttributes (codec : RTCRtpCodecParameters) : List Attribute :=
  rtpmapAttribute codec :: fmtpAttributes codec ++ rtcpFbAttributes codec

/-- The header extension loop: each URI parsed, then an `a=extmap`. -/
def withHeaderExtensions (media : MediaDescription) :
    List RTCRtpHeaderExtensionParameters → Except Error MediaDescription
  | [] => .ok media
  | extension :: rest => do
    let url ← urlParse extension.uri
    withHeaderExtensions (media.withPropertyAttribute ("extmap:" ++ toString extension.id ++ " " ++ url)) rest

/-- One `a=rid:<id> recv` per rid, then the `a=simulcast` list of the same ids. -/
def withRids (media : MediaDescription) (ridMap : List (String × String)) : MediaDescription :=
  if ridMap.isEmpty then media
  else
    (ridMap.foldl (fun media rid => media.withValueAttribute sdpAttributeRid (rid.1 ++ " recv")) media).withValueAttribute
      "simulcast" ("recv " ++ ";".intercalate (ridMap.map (·.1)))

/-- The rid phase's lines: one `a=rid:<id> recv` per entry, then the `a=simulcast` list. -/
def ridAttributes (ridMap : List (String × String)) : List Attribute :=
  if ridMap = [] then []
  else ridMap.map (fun rid => ⟨sdpAttributeRid, some (rid.1 ++ " recv")⟩) ++
    [⟨"simulcast", some ("recv " ++ ";".intercalate (ridMap.map (·.1)))⟩]

/-- `a=msid:<stream> <track>` for every associated stream. -/
def withMsidLines (media : MediaDescription) (streamIds : List String) (trackId : String) :
    MediaDescription :=
  streamIds.foldl (fun media streamId => media.withPropertyAttribute ("msid:" ++ streamId ++ " " ++ trackId)) media

/-- The sender's source lines and msid lines: from the current track while the latch
`initial_track_id` is empty, from the latch once it is set. -/
def withMsid (media : MediaDescription) (sender : RTCRtpSender) : MediaDescription :=
  let media := match sender.track with
    | some track =>
      let media := media.withMediaSource sender.ssrc track.streamId track.streamId track.id
      if sender.initialTrackId.isNone then withMsidLines media sender.associatedMediaStreamIds track.id
      else media
    | none => media
  match sender.initialTrackId with
  | some trackId => withMsidLines media sender.associatedMediaStreamIds trackId
  | none => media

/-- The four `a=ssrc` lines of a sender's track (RFC 5576): its stream as cname and stream
label, and its id as label. -/
def ssrcAttributes (ssrc : UInt32) (track : TrackLocal) : List Attribute :=
  [⟨"ssrc", some (toString ssrc ++ " cname:" ++ track.streamId)⟩,
   ⟨"ssrc", some (toString ssrc ++ " msid:" ++ track.streamId ++ " " ++ track.id)⟩,
   ⟨"ssrc", some (toString ssrc ++ " mslabel:" ++ track.streamId)⟩,
   ⟨"ssrc", some (toString ssrc ++ " label:" ++ track.id)⟩]

/-- The `a=msid` lines RFC 8829 §5.2.2 asks of a sender: one per associated stream, naming
the track id latched by an earlier negotiation when there is one, and the current track's
otherwise. -/
def msidAttributes (sender : RTCRtpSender) : List Attribute :=
  match sender.initialTrackId <|> sender.track.map (·.id) with
  | some trackId => sender.associatedMediaStreamIds.map fun streamId => ⟨"msid:" ++ streamId ++ " " ++ trackId, none⟩
  | none => []

/-- Whether a key is an msid line's: the builder writes `a=msid:<stream> <track>` with its
whole text as the key. -/
def isMsidKey (k : String) : Bool := k.data.take 5 == "msid:".data

/-- The msid lines of a description. -/
def attributesWithMsidKey (md : MediaDescription) : List Attribute :=
  md.attributes.filter (isMsidKey ·.key)


/-- The direction an answer advertises from the peer's offer (RFC 3264 §6.1), or the
transceiver's own direction when there is no offer to answer. -/
def answerDirection (offeredDirection : Option RTCRtpTransceiverDirection)
    (transceiverDirection : RTCRtpTransceiverDirection) : RTCRtpTransceiverDirection :=
  match offeredDirection with
  | some offered =>
    match offered with
    | .sendonly | .recvonly => offered.reverse.intersect transceiverDirection
    | .sendrecv | .unspecified => transceiverDirection
    | .inactive => .inactive
  | none => transceiverDirection

/-- Answering a known offered direction grants sending exactly when the peer receives and
the transceiver sends, and receiving exactly when the peer sends and the transceiver
receives. -/
theorem answerDirection_hasSend_hasRecv {offered : RTCRtpTransceiverDirection}
    (h : offered ≠ .unspecified) (t : RTCRtpTransceiverDirection) :
    (answerDirection (some offered) t).hasSend = (offered.hasRecv && t.hasSend) ∧
      (answerDirection (some offered) t).hasRecv = (offered.hasSend && t.hasRecv) := by
  revert h
  cases offered <;> cases t <;> decide

/-- A transceiver answering its own direction keeps `sendrecv` and otherwise goes
`inactive`: it cannot receive from itself what it sends. -/
theorem answerDirection_self {d : RTCRtpTransceiverDirection} (h : d ≠ .unspecified) :
    answerDirection (some d) d = if d = .sendrecv then .sendrecv else .inactive := by
  revert h
  cases d <;> decide

/-- One `a=fingerprint` per DTLS fingerprint, its value upper-cased. -/
def withFingerprints (media : MediaDescription) (dtlsFingerprints : List RTCDtlsFingerprint) :
    MediaDescription :=
  dtlsFingerprints.foldl (fun media f => media.withFingerprint f.algorithm f.value.toUpper) media

/-- The `a=fingerprint` line of a DTLS fingerprint: its algorithm and its upper-cased value. -/
def fingerprintAttribute (f : RTCDtlsFingerprint) : Attribute :=
  ⟨"fingerprint", some (f.algorithm ++ " " ++ f.value.toUpper)⟩

structure AddDataMediaSectionParams where
  shouldAddCandidates : Bool
  midValue : String
  iceParams : RTCIceParameters
  dtlsRole : ConnectionRole
  iceGatheringState : RTCIceGatheringState

/-- The data-channel section before candidates: `UDP/DTLS/SCTP` on port 9, the
provisional SCTP port and message size, ICE credentials and fingerprints. -/
def dataMediaDescription (dtlsFingerprints : List RTCDtlsFingerprint)
    (params : AddDataMediaSectionParams) : MediaDescription :=
  let media : MediaDescription :=
    { mediaName := ⟨mediaSectionApplication, ⟨9, none⟩, ["UDP", "DTLS", "SCTP"], ["webrtc-datachannel"]⟩
      connectionInformation := some placeholderConnection
      attributes := [] }
  withFingerprints
    ((((((media.withValueAttribute attrKeyConnectionSetup (toString params.dtlsRole)).withValueAttribute
      attrKeyMid params.midValue).withPropertyAttribute (toString RTCRtpTransceiverDirection.sendrecv)).withValueAttribute
      "sctp-port" "5000").withValueAttribute "max-message-size" "262144").withIceCredentials
      params.iceParams.usernameFragment params.iceParams.password)
    dtlsFingerprints

/-- The lines of a data-channel section ahead of its fingerprints: setup role, mid,
`sendrecv`, the SCTP port and message size the source fixes, and the ICE credentials. -/
def dataSectionAttributes (dtlsRole : ConnectionRole) (midValue : String) (iceParams : RTCIceParameters) :
    List Attribute :=
  [⟨attrKeyConnectionSetup, some (toString dtlsRole)⟩, ⟨attrKeyMid, some midValue⟩, ⟨"sendrecv", none⟩,
   ⟨"sctp-port", some "5000"⟩, ⟨"max-message-size", some "262144"⟩,
   ⟨"ice-ufrag", some iceParams.usernameFragment⟩, ⟨"ice-pwd", some iceParams.password⟩]

def addDataMediaSection (d : SessionDescription) (dtlsFingerprints : List RTCDtlsFingerprint)
    (candidate : SocketAddr) (params : AddDataMediaSectionParams) : Except Error SessionDescription := do
  let media := dataMediaDescription dtlsFingerprints params
  let media ← if params.shouldAddCandidates then
      addCandidateToMediaDescriptions candidate media params.iceGatheringState
    else pure media
  pure (d.withMedia media)

structure AddTransceiverSdpParams where
  shouldAddCandidates : Bool
  midValue : String
  dtlsRole : ConnectionRole
  iceGatheringState : RTCIceGatheringState
  offeredDirection : Option RTCRtpTransceiverDirection

/-- The first attributes of a transceiver section: setup role, mid, ICE credentials,
`rtcp-mux` and `rtcp-rsize`. -/
def transceiverMediaBase (kind : RTPCodecType) (midValue : String) (dtlsRole : ConnectionRole)
    (iceParams : RTCIceParameters) : MediaDescription :=
  ((((MediaDescription.newJsepMediaDescription (toString kind) []).withValueAttribute
    attrKeyConnectionSetup (toString dtlsRole)).withValueAttribute attrKeyMid midValue).withIceCredentials
    iceParams.usernameFragment iceParams.password).withPropertyAttribute attrKeyRtcpmux |>.withPropertyAttribute
    attrKeyRtcprsize

/-- The explicit rejection of a kind the transceiver has no codec for: port 0, format
`0`, and the placeholder `c=` line browsers require. -/
def rejectedMediaDescription (kind : RTPCodecType) : MediaDescription :=
  { mediaName := ⟨toString kind, ⟨0, none⟩, ["UDP", "TLS", "RTP", "SAVPF"], ["0"]⟩
    connectionInformation := some placeholderConnection
    attributes := [] }

def addTransceiverSdp (d : SessionDescription) (dtlsFingerprints : List RTCDtlsFingerprint)
    (iceParams : RTCIceParameters) (candidate : SocketAddr) (mediaSection : MediaSection)
    (params : AddTransceiverSdpParams) : Except Error (SessionDescription × Bool) :=
  match mediaSection.transceiver with
  | none => .error (.other "ErrSDPZeroTransceivers")
  | some ref =>
    let t := ref.transceiver
    let media := withCodecs (transceiverMediaBase t.kind params.midValue params.dtlsRole iceParams) t.codecs
    if t.codecs.isEmpty then
      if t.sender.track.isSome then .error (.other "ErrSenderWithNoCodecs")
      else .ok (d.withMedia (rejectedMediaDescription t.kind), false)
    else do
      let media ← withHeaderExtensions media RTCRtpParameters.default.headerExtensions
      let media := withFingerprints ((withMsid (withRids media mediaSection.ridMap) t.sender).withPropertyAttribute
        (toString (answerDirection params.offeredDirection t.direction))) dtlsFingerprints
      let media ← if params.shouldAddCandidates then
          addCandidateToMediaDescriptions candidate media params.iceGatheringState
        else pure media
      pure (d.withMedia media, true)

/-- The section `add_transceiver_sdp` builds for a transceiver with codecs, before the
candidate step; the header extension loop between codecs and rids runs on no extension. -/
def transceiverMedia (dtlsFingerprints : List RTCDtlsFingerprint) (iceParams : RTCIceParameters)
    (mediaSection : MediaSection) (params : AddTransceiverSdpParams) (t : RTCRtpTransceiver) :
    MediaDescription :=
  withFingerprints ((withMsid (withRids (withCodecs (transceiverMediaBase t.kind params.midValue
    params.dtlsRole iceParams) t.codecs) mediaSection.ridMap) t.sender).withPropertyAttribute
    (toString (answerDirection params.offeredDirection t.direction))) dtlsFingerprints

/-- The candidate step of either builder, which cannot fail. -/
def candidateStep (candidate : SocketAddr) (shouldAddCandidates : Bool)
    (iceGatheringState : RTCIceGatheringState) (media : MediaDescription) : MediaDescription :=
  if shouldAddCandidates then withHostCandidates candidate media iceGatheringState else media

/-! ### Frame lemmas of the phases -/

section Frame

variable {α : Type} {β : Type}

/-- A fold of steps that each keep a projection keeps it. -/
private theorem foldl_keeps (g : MediaDescription → β) (f : MediaDescription → α → MediaDescription)
    (hf : ∀ m a, g (f m a) = g m) (l : List α) (m : MediaDescription) : g (l.foldl f m) = g m := by
  induction l generalizing m with
  | nil => rfl
  | cons a l ih => rw [List.foldl_cons, ih, hf]

/-- A fold of steps that each append one line appends them, in order. -/
private theorem foldl_attributes (g : α → Attribute) (f : MediaDescription → α → MediaDescription)
    (hf : ∀ m a, (f m a).attributes = m.attributes ++ [g a]) (l : List α) (m : MediaDescription) :
    (l.foldl f m).attributes = m.attributes ++ l.map g := by
  induction l generalizing m with
  | nil => simp
  | cons a l ih => rw [List.foldl_cons, ih, hf, List.map_cons, List.append_assoc, List.singleton_append]

/-- The lines a builder adds under keys other than `k` leave the `k` lines alone. -/
abbrev KeepsKey (k : String) (f : MediaDescription → MediaDescription) : Prop :=
  ∀ m, (f m).attributesWithKey k = m.attributesWithKey k

theorem withCodecs_keeps (codecs : List RTCRtpCodecParameters) {k : String} (h1 : k ≠ "rtpmap")
    (h2 : k ≠ "fmtp") (h3 : k ≠ "rtcp-fb") : KeepsKey k (withCodecs · codecs) := fun m => by
  refine foldl_keeps (·.attributesWithKey k) _ (fun m codec => ?_) codecs m
  dsimp only
  rw [foldl_keeps (·.attributesWithKey k), MediaDescription.attributesWithKey_withCodec _ _ _ _ _ _ _ h1 h2]
  intro m _
  simp [Ne.symm h3]

theorem withRids_keeps (ridMap : List (String × String)) {k : String} (h1 : k ≠ "rid")
    (h2 : k ≠ "simulcast") : KeepsKey k (withRids · ridMap) := fun m => by
  unfold withRids
  split
  · rfl
  · rw [MediaDescription.attributesWithKey_withValueAttribute, if_neg (Ne.symm h2), List.append_nil]
    refine foldl_keeps (·.attributesWithKey k) _ (fun m _ => ?_) ridMap m
    simp [sdpAttributeRid, Ne.symm h1]

/-- The lines of the rid loop, under any key. -/
private theorem ridLines_attributesWithKey (media : MediaDescription) (ridMap : List (String × String))
    (k : String) :
    (ridMap.foldl (fun media rid => media.withValueAttribute sdpAttributeRid (rid.1 ++ " recv"))
        media).attributesWithKey k =
      media.attributesWithKey k ++
        if sdpAttributeRid = k then ridMap.map fun rid => ⟨sdpAttributeRid, some (rid.1 ++ " recv")⟩ else [] := by
  induction ridMap generalizing media with
  | nil => simp
  | cons rid rest ih =>
    rw [List.foldl_cons, ih, MediaDescription.attributesWithKey_withValueAttribute]
    by_cases h : sdpAttributeRid = k <;> simp [h]

/-- The rid phase adds one `a=rid:<id> recv` per entry of the rid map, in the map's order. -/
theorem withRids_rid (media : MediaDescription) (ridMap : List (String × String)) :
    (withRids media ridMap).attributesWithKey sdpAttributeRid = media.attributesWithKey sdpAttributeRid ++
      ridMap.map fun rid => ⟨sdpAttributeRid, some (rid.1 ++ " recv")⟩ := by
  cases ridMap with
  | nil => simp [withRids]
  | cons rid rest =>
    simp only [withRids, List.isEmpty_cons, Bool.false_eq_true, if_false,
      MediaDescription.attributesWithKey_withValueAttribute, ridLines_attributesWithKey]
    simp [sdpAttributeRid]

/-- The rid phase adds one `a=simulcast` listing the rid map's ids in its order, when the
map has any. -/
theorem withRids_simulcast (media : MediaDescription) (ridMap : List (String × String)) :
    (withRids media ridMap).attributesWithKey "simulcast" = media.attributesWithKey "simulcast" ++
      if ridMap = [] then [] else [⟨"simulcast", some ("recv " ++ ";".intercalate (ridMap.map (·.1)))⟩] := by
  cases ridMap with
  | nil => simp [withRids]
  | cons rid rest =>
    simp only [withRids, List.isEmpty_cons, Bool.false_eq_true, if_false,
      MediaDescription.attributesWithKey_withValueAttribute, ridLines_attributesWithKey]
    simp [sdpAttributeRid]

/-- An msid line's key starts with `msid:`. -/
theorem msid_key_ne {k : String} (s t : String) (hk : k.data.take 5 ≠ "msid:".data) :
    "msid:" ++ s ++ " " ++ t ≠ k := by
  rintro rfl
  exact hk (by simp [List.take_append_eq_append_take])

theorem withMsidLines_keeps (streamIds : List String) (trackId : String) {k : String}
    (hk : k.data.take 5 ≠ "msid:".data) : KeepsKey k (withMsidLines · streamIds trackId) := fun m => by
  refine foldl_keeps (·.attributesWithKey k) _ (fun m s => ?_) streamIds m
  simp [msid_key_ne s trackId hk]

theorem withMsid_keeps (sender : RTCRtpSender) {k : String} (h1 : k ≠ "ssrc")
    (h2 : k.data.take 5 ≠ "msid:".data) : KeepsKey k (withMsid · sender) := fun m => by
  have hSource := fun m (t : TrackLocal) =>
    MediaDescription.attributesWithKey_withMediaSource m sender.ssrc t.streamId t.streamId t.id k h1
  unfold withMsid
  split <;> split <;> (try split) <;>
    simp only [withMsidLines_keeps _ _ h2 _, hSource]

theorem withFingerprints_keeps (dtlsFingerprints : List RTCDtlsFingerprint) {k : String}
    (hk : k ≠ "fingerprint") : KeepsKey k (withFingerprints · dtlsFingerprints) := fun m => by
  refine foldl_keeps (·.attributesWithKey k) _ (fun m f => ?_) dtlsFingerprints m
  simp [Ne.symm hk]

/-- The fingerprint phase adds one `a=fingerprint` per DTLS fingerprint, in order. -/
theorem withFingerprints_fingerprint (media : MediaDescription) (dtlsFingerprints : List RTCDtlsFingerprint) :
    (withFingerprints media dtlsFingerprints).attributesWithKey "fingerprint" =
      media.attributesWithKey "fingerprint" ++ dtlsFingerprints.map fingerprintAttribute := by
  induction dtlsFingerprints generalizing media with
  | nil => simp [withFingerprints]
  | cons f rest ih =>
    simp only [withFingerprints, List.foldl_cons] at ih ⊢
    simp [ih, fingerprintAttribute]

theorem withRids_attributes (media : MediaDescription) (ridMap : List (String × String)) :
    (withRids media ridMap).attributes = media.attributes ++ ridAttributes ridMap := by
  unfold withRids ridAttributes
  cases ridMap with
  | nil => simp
  | cons rid rest =>
    rw [if_neg (by simp), if_neg (List.cons_ne_nil _ _), MediaDescription.withValueAttribute_attributes,
      foldl_attributes (fun rid => ⟨sdpAttributeRid, some (rid.1 ++ " recv")⟩) _ (fun _ _ => rfl), List.append_assoc]

private theorem withMsidLines_attributes (media : MediaDescription) (streamIds : List String) (trackId : String) :
    (withMsidLines media streamIds trackId).attributes =
      media.attributes ++ streamIds.map fun streamId => ⟨"msid:" ++ streamId ++ " " ++ trackId, none⟩ :=
  foldl_attributes _ _ (fun _ _ => rfl) _ _

/-- The sender phase appends its track's source lines, then its msid lines. -/
theorem withMsid_attributes (media : MediaDescription) (sender : RTCRtpSender) :
    (withMsid media sender).attributes = media.attributes ++
      ((sender.track.map (ssrcAttributes sender.ssrc)).getD [] ++ msidAttributes sender) := by
  unfold withMsid msidAttributes
  cases sender.track <;> cases sender.initialTrackId <;>
    simp [withMsidLines_attributes, ssrcAttributes, MediaDescription.withMediaSource,
      MediaDescription.withValueAttribute]


theorem withFingerprints_attributes (media : MediaDescription) (dtlsFingerprints : List RTCDtlsFingerprint) :
    (withFingerprints media dtlsFingerprints).attributes =
      media.attributes ++ dtlsFingerprints.map fingerprintAttribute :=
  foldl_attributes _ _ (fun _ _ => rfl) _ _

theorem withCodecs_mediaName (media : MediaDescription) (codecs : List RTCRtpCodecParameters) :
    (withCodecs media codecs).mediaName.media = media.mediaName.media ∧
      (withCodecs media codecs).mediaName.port = media.mediaName.port := by
  constructor
  · refine foldl_keeps (·.mediaName.media) _ (fun m codec => ?_) codecs media
    dsimp only
    rw [foldl_keeps (·.mediaName.media)] <;> simp
  · refine foldl_keeps (·.mediaName.port) _ (fun m codec => ?_) codecs media
    dsimp only
    rw [foldl_keeps (·.mediaName.port)] <;> simp

/-- The codec loop lists each codec's payload type as a format, in order. -/
theorem withCodecs_formats (media : MediaDescription) (codecs : List RTCRtpCodecParameters) :
    (withCodecs media codecs).mediaName.formats =
      media.mediaName.formats ++ codecs.map fun codec => toString codec.payloadType := by
  induction codecs generalizing media with
  | nil => simp [withCodecs]
  | cons codec rest ih =>
    simp only [withCodecs, List.foldl_cons] at ih ⊢
    rw [ih, foldl_keeps (·.mediaName.formats), MediaDescription.withCodec_formats]
    · simp
    · exact fun _ _ => rfl

private theorem feedbackLines_attributes (media : MediaDescription) (codec : RTCRtpCodecParameters)
    (feedbacks : List RTCPFeedback) :
    (feedbacks.foldl (fun media feedback => media.withValueAttribute "rtcp-fb"
        (toString codec.payloadType ++ " " ++ feedback.typ ++ " " ++ feedback.parameter)) media).attributes =
      media.attributes ++ feedbacks.map fun feedback =>
        ⟨"rtcp-fb", some (toString codec.payloadType ++ " " ++ feedback.typ ++ " " ++ feedback.parameter)⟩ :=
  foldl_attributes _ _ (fun _ _ => rfl) _ _

/-- The codec loop appends each codec's lines in turn. -/
theorem withCodecs_attributes (media : MediaDescription) (codecs : List RTCRtpCodecParameters) :
    (withCodecs media codecs).attributes = media.attributes ++ codecs.flatMap codecAttributes := by
  induction codecs generalizing media with
  | nil => simp [withCodecs]
  | cons codec rest ih =>
    simp only [withCodecs, List.foldl_cons] at ih ⊢
    rw [ih, feedbackLines_attributes, MediaDescription.withCodec_attributes, List.flatMap_cons]
    simp [codecAttributes, fmtpAttributes, rtcpFbAttributes, rtpmapAttribute]

/-- Under any key, the codec loop adds that key's lines of each codec in turn. -/
theorem withCodecs_attributesWithKey (media : MediaDescription) (codecs : List RTCRtpCodecParameters)
    (k : String) : (withCodecs media codecs).attributesWithKey k =
      media.attributesWithKey k ++ codecs.flatMap fun codec => (codecAttributes codec).filter (·.key = k) := by
  rw [MediaDescription.attributesWithKey, withCodecs_attributes, List.filter_append, List.filter_flatMap]
  rfl

/-- Each codec writes one `a=rtpmap`, its `a=fmtp` when it has format parameters, and its
`a=rtcp-fb` lines. -/
theorem codecAttributes_keys (codec : RTCRtpCodecParameters) :
    (codecAttributes codec).filter (·.key = "rtpmap") = [rtpmapAttribute codec] ∧
      (codecAttributes codec).filter (·.key = "fmtp") = fmtpAttributes codec ∧
      (codecAttributes codec).filter (·.key = "rtcp-fb") = rtcpFbAttributes codec := by
  unfold codecAttributes fmtpAttributes rtcpFbAttributes rtpmapAttribute
  split <;> simp [List.filter_map, Function.comp_def]

@[simp] theorem withRids_mediaName (media : MediaDescription) (ridMap : List (String × String)) :
    (withRids media ridMap).mediaName = media.mediaName := by
  unfold withRids
  split
  · rfl
  · refine foldl_keeps (·.mediaName) _ (fun _ _ => ?_) ridMap media
    rfl

@[simp] theorem withMsidLines_mediaName (media : MediaDescription) (streamIds : List String)
    (trackId : String) : (withMsidLines media streamIds trackId).mediaName = media.mediaName := by
  refine foldl_keeps (·.mediaName) _ (fun _ _ => ?_) streamIds media
  rfl

@[simp] theorem withMsid_mediaName (media : MediaDescription) (sender : RTCRtpSender) :
    (withMsid media sender).mediaName = media.mediaName := by
  unfold withMsid
  split <;> split <;> (try split) <;> simp

@[simp] theorem withFingerprints_mediaName (media : MediaDescription)
    (dtlsFingerprints : List RTCDtlsFingerprint) :
    (withFingerprints media dtlsFingerprints).mediaName = media.mediaName := by
  refine foldl_keeps (·.mediaName) _ (fun _ _ => ?_) dtlsFingerprints media
  rfl

@[simp] theorem withFingerprints_connectionInformation (media : MediaDescription)
    (dtlsFingerprints : List RTCDtlsFingerprint) :
    (withFingerprints media dtlsFingerprints).connectionInformation = media.connectionInformation := by
  refine foldl_keeps (·.connectionInformation) _ (fun _ _ => ?_) dtlsFingerprints media
  rfl

end Frame

/-! ### What the builders produce -/

/-- What a built media description keeps of the section it was built from: an
application line exactly for a data section, port 0 exactly for a rejected one, and the
section's mid as the only `a=mid` unless rejected. -/
structure BuiltFrom (s : MediaSection) (md : MediaDescription) : Prop where
  application : md.mediaName.media = mediaSectionApplication ↔ s.data = true
  rejected : md.mediaName.port.value = 0 ↔ s.accepted = false
  mid : md.attributesWithKey attrKeyMid = if s.accepted then [⟨attrKeyMid, some s.id⟩] else []

theorem toString_ne_application (kind : RTPCodecType) : toString kind ≠ mediaSectionApplication := by
  cases kind <;> decide

/-- `add_data_media_section` never fails: it appends the data section, through the
candidate step when asked. -/
theorem addDataMediaSection_eq (d : SessionDescription) (dtlsFingerprints : List RTCDtlsFingerprint)
    (candidate : SocketAddr) (params : AddDataMediaSectionParams) :
    addDataMediaSection d dtlsFingerprints candidate params = .ok (d.withMedia
      (candidateStep candidate params.shouldAddCandidates params.iceGatheringState
        (dataMediaDescription dtlsFingerprints params))) := by
  unfold addDataMediaSection candidateStep
  cases params.shouldAddCandidates <;> rfl

/-- `add_transceiver_sdp` in closed form: its two errors, the rejected block, and
otherwise the full section through the candidate step. -/
theorem addTransceiverSdp_eq (d : SessionDescription) (dtlsFingerprints : List RTCDtlsFingerprint)
    (iceParams : RTCIceParameters) (candidate : SocketAddr) (m : MediaSection)
    (params : AddTransceiverSdpParams) :
    addTransceiverSdp d dtlsFingerprints iceParams candidate m params =
      match m.transceiver with
      | none => .error (.other "ErrSDPZeroTransceivers")
      | some ref =>
        if ref.transceiver.codecs.isEmpty then
          if ref.transceiver.sender.track.isSome then .error (.other "ErrSenderWithNoCodecs")
          else .ok (d.withMedia (rejectedMediaDescription ref.transceiver.kind), false)
        else .ok (d.withMedia (candidateStep candidate params.shouldAddCandidates
          params.iceGatheringState
          (transceiverMedia dtlsFingerprints iceParams m params ref.transceiver)), true) := by
  unfold addTransceiverSdp candidateStep
  split
  · rfl
  · cases params.shouldAddCandidates <;> rfl

/-- A direction line's key is one of the five direction names. -/
theorem direction_key_ne (d : RTCRtpTransceiverDirection) {k : String}
    (hk : k ∉ ["sendrecv", "sendonly", "recvonly", "inactive", "Unspecified"]) : toString d ≠ k := by
  rintro rfl
  cases d <;> exact hk (by decide)

/-- Under a key the msid, direction and fingerprint phases do not write, a transceiver
section has the lines it had after its rid phase. -/
theorem transceiverMedia_attributesWithKey_of_rids (dtlsFingerprints : List RTCDtlsFingerprint)
    (iceParams : RTCIceParameters) (m : MediaSection) (params : AddTransceiverSdpParams)
    (t : RTCRtpTransceiver) {k : String} (hSsrc : k ≠ "ssrc") (hMsid : k.data.take 5 ≠ "msid:".data)
    (hDirection : ∀ d : RTCRtpTransceiverDirection, toString d ≠ k) (hFingerprint : k ≠ "fingerprint") :
    (transceiverMedia dtlsFingerprints iceParams m params t).attributesWithKey k =
      (withRids (withCodecs (transceiverMediaBase t.kind params.midValue params.dtlsRole iceParams) t.codecs)
        m.ridMap).attributesWithKey k := by
  unfold transceiverMedia
  rw [withFingerprints_keeps _ hFingerprint, MediaDescription.attributesWithKey_withPropertyAttribute,
    if_neg (hDirection _), List.append_nil, withMsid_keeps _ hSsrc hMsid]

/-- Under a key no later phase writes, a transceiver section has the lines of its first
attributes. -/
theorem transceiverMedia_attributesWithKey (dtlsFingerprints : List RTCDtlsFingerprint)
    (iceParams : RTCIceParameters) (m : MediaSection) (params : AddTransceiverSdpParams)
    (t : RTCRtpTransceiver) {k : String} (hCodec : k ≠ "rtpmap" ∧ k ≠ "fmtp" ∧ k ≠ "rtcp-fb")
    (hRid : k ≠ "rid" ∧ k ≠ "simulcast") (hSsrc : k ≠ "ssrc") (hMsid : k.data.take 5 ≠ "msid:".data)
    (hDirection : ∀ d : RTCRtpTransceiverDirection, toString d ≠ k) (hFingerprint : k ≠ "fingerprint") :
    (transceiverMedia dtlsFingerprints iceParams m params t).attributesWithKey k =
      (transceiverMediaBase t.kind params.midValue params.dtlsRole iceParams).attributesWithKey k := by
  rw [transceiverMedia_attributesWithKey_of_rids _ _ _ _ _ hSsrc hMsid hDirection hFingerprint,
    withRids_keeps _ hRid.1 hRid.2, withCodecs_keeps _ hCodec.1 hCodec.2.1 hCodec.2.2]

theorem transceiverMedia_mid (dtlsFingerprints : List RTCDtlsFingerprint) (iceParams : RTCIceParameters)
    (m : MediaSection) (params : AddTransceiverSdpParams) (t : RTCRtpTransceiver) :
    (transceiverMedia dtlsFingerprints iceParams m params t).attributesWithKey attrKeyMid =
      [⟨attrKeyMid, some params.midValue⟩] := by
  rw [transceiverMedia_attributesWithKey _ _ _ _ _ (by decide) (by decide) (by decide) (by decide)
    (direction_key_ne · (by decide)) (by decide)]
  simp [transceiverMediaBase, attrKeyMid, attrKeyConnectionSetup, attrKeyRtcpmux, attrKeyRtcprsize]

private theorem direction_take_ne (e : RTCRtpTransceiverDirection) :
    (toString e).data.take 5 ≠ "msid:".data := by
  cases e <;> decide

/-- A transceiver section has one line named by a direction, the answer to the offered
direction, and none named by another. -/
theorem transceiverMedia_direction (dtlsFingerprints : List RTCDtlsFingerprint)
    (iceParams : RTCIceParameters) (m : MediaSection) (params : AddTransceiverSdpParams)
    (t : RTCRtpTransceiver) (e : RTCRtpTransceiverDirection) :
    (transceiverMedia dtlsFingerprints iceParams m params t).attributesWithKey (toString e) =
      if e = answerDirection params.offeredDirection t.direction then [⟨toString e, none⟩] else [] := by
  have hBase : (transceiverMediaBase t.kind params.midValue params.dtlsRole iceParams).attributesWithKey
      (toString e) = [] := by
    cases e <;> rfl
  unfold transceiverMedia
  rw [withFingerprints_keeps _ (direction_key_ne e (by decide)),
    MediaDescription.attributesWithKey_withPropertyAttribute,
    withMsid_keeps _ (direction_key_ne e (by decide)) (direction_take_ne e),
    withRids_keeps _ (direction_key_ne e (by decide)) (direction_key_ne e (by decide)),
    withCodecs_keeps _ (direction_key_ne e (by decide)) (direction_key_ne e (by decide))
      (direction_key_ne e (by decide)), hBase, List.nil_append]
  by_cases hEq : e = answerDirection params.offeredDirection t.direction
  · subst hEq; simp
  · rw [if_neg (mt RTCRtpTransceiverDirection.toString_inj.mp (Ne.symm hEq)), if_neg hEq]

theorem transceiverMedia_candidateFree (dtlsFingerprints : List RTCDtlsFingerprint)
    (iceParams : RTCIceParameters) (m : MediaSection) (params : AddTransceiverSdpParams)
    (t : RTCRtpTransceiver) : CandidateFree (transceiverMedia dtlsFingerprints iceParams m params t) := by
  constructor <;>
  · rw [transceiverMedia_attributesWithKey _ _ _ _ _ (by decide) (by decide) (by decide) (by decide)
      (direction_key_ne · (by decide)) (by decide)]
    simp [transceiverMediaBase, attrKeyMid, attrKeyConnectionSetup, attrKeyRtcpmux, attrKeyRtcprsize]

theorem transceiverMedia_mediaName (dtlsFingerprints : List RTCDtlsFingerprint)
    (iceParams : RTCIceParameters) (m : MediaSection) (params : AddTransceiverSdpParams)
    (t : RTCRtpTransceiver) :
    (transceiverMedia dtlsFingerprints iceParams m params t).mediaName.media = toString t.kind ∧
      (transceiverMedia dtlsFingerprints iceParams m params t).mediaName.port.value = 9 := by
  simp only [transceiverMedia, withFingerprints_mediaName, MediaDescription.withPropertyAttribute_mediaName,
    withMsid_mediaName, withRids_mediaName, (withCodecs_mediaName _ _).1, (withCodecs_mediaName _ _).2]
  exact ⟨rfl, rfl⟩

theorem transceiverMedia_formats (dtlsFingerprints : List RTCDtlsFingerprint)
    (iceParams : RTCIceParameters) (m : MediaSection) (params : AddTransceiverSdpParams)
    (t : RTCRtpTransceiver) :
    (transceiverMedia dtlsFingerprints iceParams m params t).mediaName.formats =
      t.codecs.map fun codec => toString codec.payloadType := by
  simp only [transceiverMedia, withFingerprints_mediaName, MediaDescription.withPropertyAttribute_mediaName,
    withMsid_mediaName, withRids_mediaName, withCodecs_formats]
  rfl

theorem dataMediaDescription_mid (dtlsFingerprints : List RTCDtlsFingerprint)
    (params : AddDataMediaSectionParams) :
    (dataMediaDescription dtlsFingerprints params).attributesWithKey attrKeyMid =
      [⟨attrKeyMid, some params.midValue⟩] := by
  rw [dataMediaDescription, withFingerprints_keeps _ (by decide)]
  simp [MediaDescription.attributesWithKey, attrKeyMid, attrKeyConnectionSetup]

/-- A data section's one direction line is `sendrecv`. -/
theorem dataMediaDescription_direction (dtlsFingerprints : List RTCDtlsFingerprint)
    (params : AddDataMediaSectionParams) (e : RTCRtpTransceiverDirection) :
    (dataMediaDescription dtlsFingerprints params).attributesWithKey (toString e) =
      if e = .sendrecv then [⟨toString e, none⟩] else [] := by
  rw [dataMediaDescription, withFingerprints_keeps _ (direction_key_ne e (by decide))]
  cases e <;> rfl

theorem dataMediaDescription_candidateFree (dtlsFingerprints : List RTCDtlsFingerprint)
    (params : AddDataMediaSectionParams) : CandidateFree (dataMediaDescription dtlsFingerprints params) := by
  constructor <;>
  · rw [dataMediaDescription, withFingerprints_keeps _ (by decide)]
    simp [MediaDescription.attributesWithKey, attrKeyMid, attrKeyConnectionSetup]

@[simp] theorem dataMediaDescription_mediaName (dtlsFingerprints : List RTCDtlsFingerprint)
    (params : AddDataMediaSectionParams) :
    (dataMediaDescription dtlsFingerprints params).mediaName =
      ⟨mediaSectionApplication, ⟨9, none⟩, ["UDP", "DTLS", "SCTP"], ["webrtc-datachannel"]⟩ := by
  simp [dataMediaDescription]

@[simp] theorem dataMediaDescription_connectionInformation (dtlsFingerprints : List RTCDtlsFingerprint)
    (params : AddDataMediaSectionParams) :
    (dataMediaDescription dtlsFingerprints params).connectionInformation = some placeholderConnection := by
  rw [dataMediaDescription, withFingerprints_connectionInformation]
  rfl

/-- A data-channel section's lines before candidates, all of them and in order. -/
theorem dataMediaDescription_attributes (dtlsFingerprints : List RTCDtlsFingerprint)
    (params : AddDataMediaSectionParams) :
    (dataMediaDescription dtlsFingerprints params).attributes =
      dataSectionAttributes params.dtlsRole params.midValue params.iceParams ++
        dtlsFingerprints.map fingerprintAttribute := by
  simp [dataMediaDescription, withFingerprints_attributes, dataSectionAttributes]

/-- A transceiver section carries one `a=rid:<id> recv` per entry of its section's rid map
and, when there is any, one `a=simulcast` listing the same ids in the same order; nothing
else under either key. -/
theorem transceiverMedia_rids (dtlsFingerprints : List RTCDtlsFingerprint) (iceParams : RTCIceParameters)
    (m : MediaSection) (params : AddTransceiverSdpParams) (t : RTCRtpTransceiver) :
    (transceiverMedia dtlsFingerprints iceParams m params t).attributesWithKey sdpAttributeRid =
        m.ridMap.map (fun rid => ⟨sdpAttributeRid, some (rid.1 ++ " recv")⟩) ∧
      (transceiverMedia dtlsFingerprints iceParams m params t).attributesWithKey "simulcast" =
        if m.ridMap = [] then [] else [⟨"simulcast", some ("recv " ++ ";".intercalate (m.ridMap.map (·.1)))⟩] := by
  rw [transceiverMedia_attributesWithKey_of_rids _ _ _ _ _ (by decide) (by decide)
      (direction_key_ne · (by decide)) (by decide),
    transceiverMedia_attributesWithKey_of_rids _ _ _ _ _ (by decide) (by decide)
      (direction_key_ne · (by decide)) (by decide),
    withRids_rid, withRids_simulcast, withCodecs_keeps _ (by decide) (by decide) (by decide),
    withCodecs_keeps _ (by decide) (by decide) (by decide)]
  simp [transceiverMediaBase, attrKeyMid, attrKeyConnectionSetup, attrKeyRtcpmux, attrKeyRtcprsize,
    sdpAttributeRid]

/-- A transceiver section carries one `a=fingerprint` per DTLS fingerprint it is given, in
order. -/
theorem transceiverMedia_fingerprints (dtlsFingerprints : List RTCDtlsFingerprint)
    (iceParams : RTCIceParameters) (m : MediaSection) (params : AddTransceiverSdpParams)
    (t : RTCRtpTransceiver) :
    (transceiverMedia dtlsFingerprints iceParams m params t).attributesWithKey "fingerprint" =
      dtlsFingerprints.map fingerprintAttribute := by
  unfold transceiverMedia
  rw [withFingerprints_fingerprint, MediaDescription.attributesWithKey_withPropertyAttribute,
    if_neg (direction_key_ne _ (by decide)), List.append_nil, withMsid_keeps _ (by decide) (by decide),
    withRids_keeps _ (by decide) (by decide), withCodecs_keeps _ (by decide) (by decide) (by decide)]
  simp [transceiverMediaBase, attrKeyMid, attrKeyConnectionSetup, attrKeyRtcpmux, attrKeyRtcprsize]

/-- A transceiver section carries one `a=rtpmap` per codec of its transceiver, in the
order of its formats, and each codec's `a=fmtp` and `a=rtcp-fb` lines. -/
theorem transceiverMedia_codecLines (dtlsFingerprints : List RTCDtlsFingerprint)
    (iceParams : RTCIceParameters) (m : MediaSection) (params : AddTransceiverSdpParams)
    (t : RTCRtpTransceiver) :
    (transceiverMedia dtlsFingerprints iceParams m params t).attributesWithKey "rtpmap" =
        t.codecs.map rtpmapAttribute ∧
      (transceiverMedia dtlsFingerprints iceParams m params t).attributesWithKey "fmtp" =
        t.codecs.flatMap fmtpAttributes ∧
      (transceiverMedia dtlsFingerprints iceParams m params t).attributesWithKey "rtcp-fb" =
        t.codecs.flatMap rtcpFbAttributes := by
  refine ⟨?_, ?_, ?_⟩ <;>
  · rw [transceiverMedia_attributesWithKey_of_rids _ _ _ _ _ (by decide) (by decide)
      (direction_key_ne · (by decide)) (by decide), withRids_keeps _ (by decide) (by decide),
      withCodecs_attributesWithKey]
    simp [transceiverMediaBase, attrKeyMid, attrKeyConnectionSetup, attrKeyRtcpmux, attrKeyRtcprsize,
      codecAttributes_keys, ← List.map_eq_flatMap]

/-- The closed form of a transceiver section: its first attributes, each codec's lines, the
rid lines, the sender's source and msid lines, its direction and its fingerprints. -/
theorem transceiverMedia_attributes (dtlsFingerprints : List RTCDtlsFingerprint)
    (iceParams : RTCIceParameters) (m : MediaSection) (params : AddTransceiverSdpParams)
    (t : RTCRtpTransceiver) :
    (transceiverMedia dtlsFingerprints iceParams m params t).attributes =
      (transceiverMediaBase t.kind params.midValue params.dtlsRole iceParams).attributes ++
        t.codecs.flatMap codecAttributes ++ ridAttributes m.ridMap ++
        ((t.sender.track.map (ssrcAttributes t.sender.ssrc)).getD [] ++ msidAttributes t.sender) ++
        [⟨toString (answerDirection params.offeredDirection t.direction), none⟩] ++
        dtlsFingerprints.map fingerprintAttribute := by
  simp only [transceiverMedia, withFingerprints_attributes, MediaDescription.withPropertyAttribute_attributes,
    withMsid_attributes, withRids_attributes, withCodecs_attributes]

/-- Lines filed only under keys a test on keys rejects pass none of them. -/
private theorem filter_key_of_keys {p : String → Bool} {l : List Attribute} {keys : List String}
    (hKeys : ∀ a ∈ l, a.key ∈ keys) (hNot : ∀ k ∈ keys, p k = false) : l.filter (p ·.key) = [] :=
  List.filter_eq_nil_iff.mpr fun a ha hk => by simp [hNot _ (hKeys a ha)] at hk

theorem codecAttributes_key (codecs : List RTCRtpCodecParameters) :
    ∀ a ∈ codecs.flatMap codecAttributes, a.key ∈ ["rtpmap", "fmtp", "rtcp-fb"] := by
  intro a ha
  obtain ⟨codec, -, ha⟩ := List.mem_flatMap.mp ha
  simp only [codecAttributes, fmtpAttributes, rtcpFbAttributes, List.mem_cons, List.mem_append,
    List.mem_map] at ha
  rcases ha with (rfl | ha) | ⟨f, -, rfl⟩
  · simp [rtpmapAttribute]
  · split at ha <;> simp_all
  · simp

theorem ridAttributes_key (ridMap : List (String × String)) :
    ∀ a ∈ ridAttributes ridMap, a.key ∈ [sdpAttributeRid, "simulcast"] := by
  intro a ha
  unfold ridAttributes at ha
  split at ha
  · cases ha
  · simp only [List.mem_append, List.mem_map, List.mem_singleton] at ha
    rcases ha with ⟨rid, -, rfl⟩ | rfl <;> simp

theorem fingerprintAttribute_key (dtlsFingerprints : List RTCDtlsFingerprint) :
    ∀ a ∈ dtlsFingerprints.map fingerprintAttribute, a.key ∈ ["fingerprint"] := by
  simp [fingerprintAttribute]

theorem msidAttributes_msid (sender : RTCRtpSender) :
    (msidAttributes sender).filter (isMsidKey ·.key) = msidAttributes sender := by
  unfold msidAttributes
  split
  · refine List.filter_eq_self.mpr fun a ha => ?_
    obtain ⟨s, -, rfl⟩ := List.mem_map.mp ha
    simp [isMsidKey, List.take_append_eq_append_take]
  · rfl

theorem transceiverMedia_msid (dtlsFingerprints : List RTCDtlsFingerprint)
    (iceParams : RTCIceParameters) (m : MediaSection) (params : AddTransceiverSdpParams)
    (t : RTCRtpTransceiver) :
    attributesWithMsidKey (transceiverMedia dtlsFingerprints iceParams m params t) = msidAttributes t.sender := by
  have hSsrc : ((t.sender.track.map (ssrcAttributes t.sender.ssrc)).getD []).filter (isMsidKey ·.key) = [] := by
    cases t.sender.track <;> rfl
  have hDirection : [(⟨toString (answerDirection params.offeredDirection t.direction), none⟩ : Attribute)].filter
      (isMsidKey ·.key) = [] := by
    cases answerDirection params.offeredDirection t.direction <;> rfl
  have hBase : (transceiverMediaBase t.kind params.midValue params.dtlsRole iceParams).attributes.filter
      (isMsidKey ·.key) = [] := rfl
  rw [attributesWithMsidKey, transceiverMedia_attributes]
  simp only [List.filter_append, msidAttributes_msid, hBase, hSsrc, hDirection,
    filter_key_of_keys (p := isMsidKey) (fingerprintAttribute_key dtlsFingerprints) (by decide),
    filter_key_of_keys (p := isMsidKey) (codecAttributes_key t.codecs) (by decide),
    filter_key_of_keys (p := isMsidKey) (ridAttributes_key m.ridMap) (by decide), List.append_nil,
    List.nil_append]

theorem transceiverMedia_ssrc (dtlsFingerprints : List RTCDtlsFingerprint)
    (iceParams : RTCIceParameters) (m : MediaSection) (params : AddTransceiverSdpParams)
    (t : RTCRtpTransceiver) :
    (transceiverMedia dtlsFingerprints iceParams m params t).attributesWithKey "ssrc" =
      (t.sender.track.map (ssrcAttributes t.sender.ssrc)).getD [] := by
  have hSsrc : ((t.sender.track.map (ssrcAttributes t.sender.ssrc)).getD []).filter (·.key = "ssrc") =
      (t.sender.track.map (ssrcAttributes t.sender.ssrc)).getD [] := by
    cases t.sender.track <;> rfl
  have hMsid : (msidAttributes t.sender).filter (·.key = "ssrc") = [] := by
    unfold msidAttributes
    split
    · exact List.filter_eq_nil_iff.mpr fun a ha => by
        obtain ⟨s, -, rfl⟩ := List.mem_map.mp ha
        simpa using msid_key_ne s _ (by decide)
    · rfl
  have hDirection : [(⟨toString (answerDirection params.offeredDirection t.direction), none⟩ : Attribute)].filter
      (·.key = "ssrc") = [] := by
    cases answerDirection params.offeredDirection t.direction <;> rfl
  have hBase : (transceiverMediaBase t.kind params.midValue params.dtlsRole iceParams).attributes.filter
      (·.key = "ssrc") = [] := rfl
  rw [MediaDescription.attributesWithKey, transceiverMedia_attributes]
  simp only [List.filter_append, hSsrc, hMsid, hBase, hDirection,
    filter_key_of_keys (p := (decide <| · = "ssrc")) (fingerprintAttribute_key dtlsFingerprints) (by decide),
    filter_key_of_keys (p := (decide <| · = "ssrc")) (codecAttributes_key t.codecs) (by decide),
    filter_key_of_keys (p := (decide <| · = "ssrc")) (ridAttributes_key m.ridMap) (by decide),
    List.append_nil, List.nil_append]

theorem dataMediaDescription_senderLines (dtlsFingerprints : List RTCDtlsFingerprint)
    (params : AddDataMediaSectionParams) :
    attributesWithMsidKey (dataMediaDescription dtlsFingerprints params) = [] ∧
      (dataMediaDescription dtlsFingerprints params).attributesWithKey "ssrc" = [] := by
  rw [attributesWithMsidKey, MediaDescription.attributesWithKey, dataMediaDescription_attributes,
    List.filter_append, List.filter_append,
    filter_key_of_keys (p := isMsidKey) (fingerprintAttribute_key _) (by decide),
    filter_key_of_keys (p := (decide <| · = "ssrc")) (fingerprintAttribute_key _) (by decide)]
  exact ⟨rfl, rfl⟩

theorem dataMediaDescription_fingerprints (dtlsFingerprints : List RTCDtlsFingerprint)
    (params : AddDataMediaSectionParams) :
    (dataMediaDescription dtlsFingerprints params).attributesWithKey "fingerprint" =
      dtlsFingerprints.map fingerprintAttribute := by
  rw [dataMediaDescription, withFingerprints_fingerprint]
  simp [MediaDescription.attributesWithKey, attrKeyMid, attrKeyConnectionSetup]

/-- The candidate step keeps the `m=` line and, on a candidate-free section, every line
other than candidates. -/
theorem candidateStep_keeps {c : SocketAddr} {b : Bool} {md : MediaDescription} (hFree : CandidateFree md) :
    (candidateStep c b .complete md).mediaName = md.mediaName ∧
      ∀ k, k ≠ "candidate" → k ≠ "end-of-candidates" →
        (candidateStep c b .complete md).attributesWithKey k = md.attributesWithKey k := by
  unfold candidateStep
  split
  · exact (withHostCandidates_complete hFree).2
  · exact ⟨rfl, fun _ _ _ => rfl⟩

/-- The candidate step only appends, and only the host candidates of `c` and the
end-of-candidates marker, in that order; with no candidates to add it appends nothing. -/
theorem candidateStep_attributes (c : SocketAddr) (b : Bool) (s : RTCIceGatheringState) (md : MediaDescription) :
    ∃ added, (candidateStep c b s md).attributes = md.attributes ++ added ∧
      added.Sublist [candidateAttribute c 1, candidateAttribute c 2, endOfCandidatesAttribute] ∧
      (b = false → added = []) := by
  cases b with
  | false => exact ⟨[], by simp [candidateStep], List.nil_sublist _, fun _ => rfl⟩
  | true =>
    obtain ⟨added, hAdded, -, hSub, -⟩ := appendCandidates_attributes c md
    have hHost := hSub.trans (List.sublist_append_left _ [endOfCandidatesAttribute])
    rw [candidateStep, if_pos rfl, withHostCandidates]
    split_ifs
    · exact ⟨added, hAdded, hHost, nofun⟩
    · exact ⟨added, hAdded, hHost, nofun⟩
    · exact ⟨added ++ [endOfCandidatesAttribute], by simp [hAdded, endOfCandidatesAttribute],
        hSub.append (List.Sublist.refl _), nofun⟩

theorem candidateStep_msid (c : SocketAddr) (b : Bool) (s : RTCIceGatheringState) (md : MediaDescription) :
    attributesWithMsidKey (candidateStep c b s md) = attributesWithMsidKey md := by
  obtain ⟨added, hAdded, hSub, -⟩ := candidateStep_attributes c b s md
  have hKeys : ∀ a ∈ added, a.key ∈ ["candidate", "end-of-candidates"] := fun a ha => by
    obtain rfl | rfl | rfl := by simpa using hSub.subset ha
    all_goals simp [candidateAttribute, endOfCandidatesAttribute]
  rw [attributesWithMsidKey, attributesWithMsidKey, hAdded, List.filter_append,
    filter_key_of_keys (p := isMsidKey) hKeys (by decide), List.append_nil]

end Sfu
