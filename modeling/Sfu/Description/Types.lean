import Sfu.Sdp.Description
import Sfu.Description.Direction

/-! The data the negotiation engine reads: transceivers with their senders and codecs,
the ephemeral `MediaSection` descriptors, certificates, ICE parameters and errors.
Several of these live in files outside the repository snapshot; those keep only the
fields the engine reads, as the spec describes them. -/
namespace Sfu

open Sdp

/-- `shared::error::Error`, with the variants the engine raises. -/
inductive Error
  | other (message : String)
  | parseUrl (input : String)
  deriving DecidableEq, Repr

/-- Modelled from the spec: the media kind of a transceiver, derived from an `m=` type. -/
inductive RTPCodecType
  | unspecified
  | audio
  | video
  deriving DecidableEq, Repr

namespace RTPCodecType

instance : ToString RTPCodecType where
  toString
    | .audio => "audio"
    | .video => "video"
    | .unspecified => "Unspecified"

/-- Modelled from the spec: `From<&str>`; only `audio` and `video` are media kinds. -/
def fromStr (raw : String) : RTPCodecType :=
  if raw = "audio" then .audio else if raw = "video" then .video else .unspecified

end RTPCodecType

/-- `RTCPFeedback`: one `a=rtcp-fb` mechanism of a codec. -/
structure RTCPFeedback where
  typ : String
  parameter : String
  deriving DecidableEq, Repr

/-- Modelled from the spec: a codec's capability as the section builder reads it. -/
structure RTCRtpCodecCapability where
  mimeType : String
  clockRate : UInt32
  channels : UInt16
  sdpFmtpLine : String
  rtcpFeedback : List RTCPFeedback
  deriving DecidableEq, Repr

structure RTCRtpCodecParameters where
  capability : RTCRtpCodecCapability
  payloadType : UInt8
  deriving DecidableEq, Repr

/-- Modelled from the spec: one RTP header extension to advertise. -/
structure RTCRtpHeaderExtensionParameters where
  uri : String
  id : Int
  deriving DecidableEq, Repr

structure RTCRtpParameters where
  headerExtensions : List RTCRtpHeaderExtensionParameters
  codecs : List RTCRtpCodecParameters
  deriving DecidableEq, Repr

/-- `RTCRtpParameters::default()`, what the builder uses in place of the media engine. -/
def RTCRtpParameters.default : RTCRtpParameters := ⟨[], []⟩

/-- Modelled from the spec: the outbound track of a sender, as the msid lines read it. -/
structure TrackLocal where
  id : String
  streamId : String
  deriving DecidableEq, Repr

/-- Modelled from the spec: the sender half of a transceiver. `negotiated` is the flag
`set_negotiated` raises; `initialTrackId` is the msid latch. -/
structure RTCRtpSender where
  track : Option TrackLocal
  ssrc : UInt32
  initialTrackId : Option String
  associatedMediaStreamIds : List String
  negotiated : Bool
  deriving DecidableEq, Repr

/-- `RTCRtpTransceiver`, with the fields the engine reads. -/
structure RTCRtpTransceiver where
  mid : String
  sender : RTCRtpSender
  direction : RTCRtpTransceiverDirection
  codecs : List RTCRtpCodecParameters
  kind : RTPCodecType
  deriving DecidableEq, Repr

/-- `t.sender.set_negotiated()`. -/
def RTCRtpTransceiver.setNegotiated (t : RTCRtpTransceiver) : RTCRtpTransceiver :=
  { t with sender := { t.sender with negotiated := true } }

@[simp] theorem RTCRtpTransceiver.setNegotiated_setNegotiated (t : RTCRtpTransceiver) :
    t.setNegotiated.setNegotiated = t.setNegotiated := rfl

/-- A `&RTCRtpTransceiver` borrowed from the caller's slice: where it points, which is
its identity, and the transceiver it reads there. -/
structure TransceiverRef where
  index : Nat
  transceiver : RTCRtpTransceiver
  deriving DecidableEq, Repr

structure RTCDtlsFingerprint where
  algorithm : String
  value : String
  deriving DecidableEq, Repr

/-- Modelled from the spec: a certificate, through the fingerprints it exposes. -/
structure RTCCertificate where
  fingerprints : List RTCDtlsFingerprint
  deriving DecidableEq, Repr

def RTCCertificate.getFingerprints (c : RTCCertificate) : List RTCDtlsFingerprint :=
  c.fingerprints

structure RTCIceParameters where
  usernameFragment : String
  password : String
  deriving DecidableEq, Repr

/-- A socket address, its IP already in printed form. -/
structure SocketAddr where
  ip : String
  port : UInt16
  deriving DecidableEq, Repr

/-- Modelled from the spec: the DTLS role this side takes, mapped to its `a=setup` value. -/
inductive DTLSRole
  | auto
  | client
  | server
  deriving DecidableEq, Repr

def DTLSRole.toConnectionRole : DTLSRole → ConnectionRole
  | .auto => .actpass
  | .client => .active
  | .server => .passive

inductive RTCIceGatheringState
  | unspecified
  | new
  | gathering
  | complete
  deriving DecidableEq, Repr

inductive RTCSdpType
  | unspecified
  | offer
  | pranswer
  | answer
  | rollback
  deriving DecidableEq, Repr

/-- The public envelope of a description: its type, its text and its parsed form. -/
structure RTCSessionDescription where
  sdpType : RTCSdpType
  sdp : String
  parsed : Option SessionDescription
  deriving DecidableEq, Repr

/-- `RTCSessionDescription::unmarshal`, through the `sdp` crate's parser, which is not part
of the repository and is a parameter; a parse error comes back as `Error::Other` with the
parser's message. -/
def RTCSessionDescription.unmarshal (parse : String → Except String SessionDescription)
    (desc : RTCSessionDescription) : Except Error SessionDescription :=
  match parse desc.sdp with
  | .ok parsed => .ok parsed
  | .error err => .error (.other err)

/-- The body `answer`, `offer` and `pranswer` share: the text with its type, then its
parse. -/
def RTCSessionDescription.ofType (sdpType : RTCSdpType) (parse : String → Except String SessionDescription)
    (sdp : String) : Except Error RTCSessionDescription := do
  let desc : RTCSessionDescription := { sdp := sdp, sdpType := sdpType, parsed := none }
  let parsed ← desc.unmarshal parse
  pure { desc with parsed := some parsed }

def RTCSessionDescription.answer (parse : String → Except String SessionDescription) (sdp : String) :
    Except Error RTCSessionDescription :=
  RTCSessionDescription.ofType .answer parse sdp

def RTCSessionDescription.offer (parse : String → Except String SessionDescription) (sdp : String) :
    Except Error RTCSessionDescription :=
  RTCSessionDescription.ofType .offer parse sdp

def RTCSessionDescription.pranswer (parse : String → Except String SessionDescription) (sdp : String) :
    Except Error RTCSessionDescription :=
  RTCSessionDescription.ofType .pranswer parse sdp

/-- The constructors succeed exactly when the text parses, with their own type, the text
and its parse; otherwise they return the parser's message. -/
theorem RTCSessionDescription.ofType_eq (sdpType : RTCSdpType)
    (parse : String → Except String SessionDescription) (sdp : String) :
    RTCSessionDescription.ofType sdpType parse sdp =
      match parse sdp with
      | .ok parsed => .ok ⟨sdpType, sdp, some parsed⟩
      | .error err => .error (.other err) := by
  unfold RTCSessionDescription.ofType RTCSessionDescription.unmarshal
  dsimp only
  cases parse sdp <;> rfl

/-- One section to build: a remote or local `mid`, the transceiver it uses (none for a
data channel), the simulcast rids and the direction the peer offered. -/
structure MediaSection where
  id : String
  transceiver : Option TransceiverRef := none
  data : Bool := false
  ridMap : List (String × String) := []
  offeredDirection : Option RTCRtpTransceiverDirection := none
  deriving DecidableEq, Repr

def mediaSectionApplication : String := "application"

/-- A section that is not rejected: a data channel, or a transceiver with codecs. -/
def MediaSection.accepted (m : MediaSection) : Bool :=
  m.data || m.transceiver.any (fun r => !r.transceiver.codecs.isEmpty)

end Sfu
