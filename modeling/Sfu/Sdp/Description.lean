import Mathlib.Data.List.Basic

/-! The part of the `sdp` crate the negotiation engine builds descriptions with. Every
builder pushes at the end of a list; the lemmas below say so once, so that later proofs
never unfold a builder. Fields the engine never sets or reads are left out. -/
namespace Sdp

/-- `a=<key>` or `a=<key>:<value>`. -/
structure Attribute where
  key : String
  value : Option String
  deriving DecidableEq, Repr

/-- The port of an `m=` line, with its optional range. -/
structure RangedPort where
  value : Int
  range : Option Int
  deriving DecidableEq, Repr

/-- The `m=` line. -/
structure MediaName where
  media : String
  port : RangedPort
  protos : List String
  formats : List String
  deriving DecidableEq, Repr

structure Address where
  address : String
  ttl : Option Int
  range : Option Int
  deriving DecidableEq, Repr

/-- The `c=` line. -/
structure ConnectionInformation where
  networkType : String
  addressType : String
  address : Option Address
  deriving DecidableEq, Repr

structure MediaDescription where
  mediaName : MediaName
  connectionInformation : Option ConnectionInformation
  attributes : List Attribute
  deriving DecidableEq, Repr

/-- The two numbers of the `o=` line that renegotiation tracks. -/
structure Origin where
  sessionId : UInt64
  sessionVersion : UInt64
  deriving DecidableEq, Repr

instance : Inhabited Origin := ⟨⟨0, 0⟩⟩

structure SessionDescription where
  origin : Origin
  attributes : List Attribute
  mediaDescriptions : List MediaDescription
  deriving DecidableEq, Repr

/-- The `a=setup` roles of RFC 4145. -/
inductive ConnectionRole
  | unspecified
  | active
  | passive
  | actpass
  | holdconn
  deriving DecidableEq, Repr

instance : ToString ConnectionRole where
  toString
    | .active => "active"
    | .passive => "passive"
    | .actpass => "actpass"
    | .holdconn => "holdconn"
    | .unspecified => "Unspecified"

def attrKeyMid : String := "mid"
def attrKeyGroup : String := "group"
def attrKeyIcelite : String := "ice-lite"
def attrKeyRtcpmux : String := "rtcp-mux"
def attrKeyRtcprsize : String := "rtcp-rsize"
def attrKeyConnectionSetup : String := "setup"
def attrKeyIdentity : String := "identity"

/-- The `IN IP4 0.0.0.0` placeholder every section of the engine carries. -/
def placeholderConnection : ConnectionInformation :=
  ⟨"IN", "IP4", some ⟨"0.0.0.0", none, none⟩⟩

namespace MediaDescription

def withPropertyAttribute (m : MediaDescription) (key : String) : MediaDescription :=
  { m with attributes := m.attributes ++ [⟨key, none⟩] }

def withValueAttribute (m : MediaDescription) (key value : String) : MediaDescription :=
  { m with attributes := m.attributes ++ [⟨key, some value⟩] }

def withFingerprint (m : MediaDescription) (algorithm value : String) : MediaDescription :=
  m.withValueAttribute "fingerprint" (algorithm ++ " " ++ value)

def withIceCredentials (m : MediaDescription) (username password : String) : MediaDescription :=
  (m.withValueAttribute "ice-ufrag" username).withValueAttribute "ice-pwd" password

/-- One payload type: its format token, its `rtpmap` line and, when given, its `fmtp`. -/
def withCodec (m : MediaDescription) (payloadType : UInt8) (name : String) (clockrate : UInt32)
    (channels : UInt16) (fmtp : String) : MediaDescription :=
  let m := { m with mediaName := { m.mediaName with formats := m.mediaName.formats ++ [toString payloadType] } }
  let rtpmap := toString payloadType ++ " " ++ name ++ "/" ++ toString clockrate ++
    (if channels > 0 then "/" ++ toString channels else "")
  if fmtp.isEmpty then m.withValueAttribute "rtpmap" rtpmap
  else (m.withValueAttribute "rtpmap" rtpmap).withValueAttribute "fmtp" (toString payloadType ++ " " ++ fmtp)

def withMediaSource (m : MediaDescription) (ssrc : UInt32) (cname streamLabel label : String) :
    MediaDescription :=
  (((m.withValueAttribute "ssrc" (toString ssrc ++ " cname:" ++ cname)).withValueAttribute "ssrc"
    (toString ssrc ++ " msid:" ++ streamLabel ++ " " ++ label)).withValueAttribute "ssrc"
    (toString ssrc ++ " mslabel:" ++ streamLabel)).withValueAttribute "ssrc"
    (toString ssrc ++ " label:" ++ label)

/-- The skeleton of an RTP section of a JSEP description: port 9, `UDP/TLS/RTP/SAVPF`. -/
def newJsepMediaDescription (codecType : String) (_codecPrefs : List String) : MediaDescription :=
  { mediaName := ⟨codecType, ⟨9, none⟩, ["UDP", "TLS", "RTP", "SAVPF"], []⟩
    connectionInformation := some placeholderConnection
    attributes := [] }

/-- The attributes of a section carrying `key`. -/
def attributesWithKey (m : MediaDescription) (key : String) : List Attribute :=
  m.attributes.filter (·.key = key)

@[simp] theorem withPropertyAttribute_attributes (m : MediaDescription) (key : String) :
    (m.withPropertyAttribute key).attributes = m.attributes ++ [⟨key, none⟩] := rfl

@[simp] theorem withPropertyAttribute_mediaName (m : MediaDescription) (key : String) :
    (m.withPropertyAttribute key).mediaName = m.mediaName := rfl

@[simp] theorem withValueAttribute_attributes (m : MediaDescription) (key value : String) :
    (m.withValueAttribute key value).attributes = m.attributes ++ [⟨key, some value⟩] := rfl

@[simp] theorem withValueAttribute_mediaName (m : MediaDescription) (key value : String) :
    (m.withValueAttribute key value).mediaName = m.mediaName := rfl

@[simp] theorem withFingerprint_attributes (m : MediaDescription) (algorithm value : String) :
    (m.withFingerprint algorithm value).attributes =
      m.attributes ++ [⟨"fingerprint", some (algorithm ++ " " ++ value)⟩] := rfl

@[simp] theorem withFingerprint_mediaName (m : MediaDescription) (algorithm value : String) :
    (m.withFingerprint algorithm value).mediaName = m.mediaName := rfl

@[simp] theorem withIceCredentials_attributes (m : MediaDescription) (username password : String) :
    (m.withIceCredentials username password).attributes =
      m.attributes ++ [⟨"ice-ufrag", some username⟩, ⟨"ice-pwd", some password⟩] := by
  simp [withIceCredentials]

@[simp] theorem withIceCredentials_mediaName (m : MediaDescription) (username password : String) :
    (m.withIceCredentials username password).mediaName = m.mediaName := rfl

@[simp] theorem withMediaSource_attributes (m : MediaDescription) (ssrc : UInt32)
    (cname streamLabel label : String) :
    (m.withMediaSource ssrc cname streamLabel label).attributes = m.attributes ++
      [⟨"ssrc", some (toString ssrc ++ " cname:" ++ cname)⟩,
       ⟨"ssrc", some (toString ssrc ++ " msid:" ++ streamLabel ++ " " ++ label)⟩,
       ⟨"ssrc", some (toString ssrc ++ " mslabel:" ++ streamLabel)⟩,
       ⟨"ssrc", some (toString ssrc ++ " label:" ++ label)⟩] := by
  simp [withMediaSource]

@[simp] theorem withMediaSource_mediaName (m : MediaDescription) (ssrc : UInt32)
    (cname streamLabel label : String) :
    (m.withMediaSource ssrc cname streamLabel label).mediaName = m.mediaName := rfl

@[simp] theorem attributesWithKey_withPropertyAttribute (m : MediaDescription) (key k : String) :
    (m.withPropertyAttribute key).attributesWithKey k =
      m.attributesWithKey k ++ if key = k then [⟨key, none⟩] else [] := by
  by_cases h : key = k <;> simp [attributesWithKey, h]

@[simp] theorem attributesWithKey_withValueAttribute (m : MediaDescription) (key value k : String) :
    (m.withValueAttribute key value).attributesWithKey k =
      m.attributesWithKey k ++ if key = k then [⟨key, some value⟩] else [] := by
  by_cases h : key = k <;> simp [attributesWithKey, h]

@[simp] theorem attributesWithKey_withFingerprint (m : MediaDescription) (algorithm value k : String) :
    (m.withFingerprint algorithm value).attributesWithKey k = m.attributesWithKey k ++
      if "fingerprint" = k then [⟨"fingerprint", some (algorithm ++ " " ++ value)⟩] else [] :=
  attributesWithKey_withValueAttribute _ _ _ _

@[simp] theorem attributesWithKey_withIceCredentials (m : MediaDescription) (username password k : String) :
    (m.withIceCredentials username password).attributesWithKey k = m.attributesWithKey k ++
      ((if "ice-ufrag" = k then [⟨"ice-ufrag", some username⟩] else []) ++
        if "ice-pwd" = k then [⟨"ice-pwd", some password⟩] else []) := by
  simp [withIceCredentials]

/-- The media source lines are all `a=ssrc`. -/
theorem attributesWithKey_withMediaSource (m : MediaDescription) (ssrc : UInt32)
    (cname streamLabel label k : String) (hk : k ≠ "ssrc") :
    (m.withMediaSource ssrc cname streamLabel label).attributesWithKey k = m.attributesWithKey k := by
  simp [withMediaSource, Ne.symm hk]

/-- A codec adds its `rtpmap` and `fmtp` lines and nothing under another key. -/
theorem attributesWithKey_withCodec (m : MediaDescription) (payloadType : UInt8) (name : String)
    (clockrate : UInt32) (channels : UInt16) (fmtp k : String) (hRtpmap : k ≠ "rtpmap")
    (hFmtp : k ≠ "fmtp") :
    (m.withCodec payloadType name clockrate channels fmtp).attributesWithKey k = m.attributesWithKey k := by
  unfold withCodec
  by_cases h : fmtp.isEmpty <;> simp [h, attributesWithKey, Ne.symm hRtpmap, Ne.symm hFmtp]

@[simp] theorem attributesWithKey_newJsepMediaDescription (codecType : String) (prefs : List String)
    (k : String) : (newJsepMediaDescription codecType prefs).attributesWithKey k = [] := rfl

@[simp] theorem withCodec_media (m : MediaDescription) (payloadType : UInt8) (name : String)
    (clockrate : UInt32) (channels : UInt16) (fmtp : String) :
    (m.withCodec payloadType name clockrate channels fmtp).mediaName.media = m.mediaName.media := by
  unfold withCodec
  by_cases h : fmtp.isEmpty <;> simp [h]

@[simp] theorem withCodec_port (m : MediaDescription) (payloadType : UInt8) (name : String)
    (clockrate : UInt32) (channels : UInt16) (fmtp : String) :
    (m.withCodec payloadType name clockrate channels fmtp).mediaName.port = m.mediaName.port := by
  unfold withCodec
  by_cases h : fmtp.isEmpty <;> simp [h]

@[simp] theorem withCodec_formats (m : MediaDescription) (payloadType : UInt8) (name : String)
    (clockrate : UInt32) (channels : UInt16) (fmtp : String) :
    (m.withCodec payloadType name clockrate channels fmtp).mediaName.formats =
      m.mediaName.formats ++ [toString payloadType] := by
  unfold withCodec
  by_cases h : fmtp.isEmpty <;> simp [h]

/-- A codec appends its `rtpmap` line and, when it has format parameters, its `fmtp`. -/
theorem withCodec_attributes (m : MediaDescription) (payloadType : UInt8) (name : String)
    (clockrate : UInt32) (channels : UInt16) (fmtp : String) :
    (m.withCodec payloadType name clockrate channels fmtp).attributes = m.attributes ++
      ⟨"rtpmap", some (toString payloadType ++ " " ++ name ++ "/" ++ toString clockrate ++
        (if channels > 0 then "/" ++ toString channels else ""))⟩ ::
        if fmtp.isEmpty then [] else [⟨"fmtp", some (toString payloadType ++ " " ++ fmtp)⟩] := by
  unfold withCodec
  by_cases h : fmtp.isEmpty <;> simp [h, withValueAttribute]

end MediaDescription

namespace SessionDescription

def withPropertyAttribute (d : SessionDescription) (key : String) : SessionDescription :=
  { d with attributes := d.attributes ++ [⟨key, none⟩] }

def withValueAttribute (d : SessionDescription) (key value : String) : SessionDescription :=
  { d with attributes := d.attributes ++ [⟨key, some value⟩] }

def withFingerprint (d : SessionDescription) (algorithm value : String) : SessionDescription :=
  d.withValueAttribute "fingerprint" (algorithm ++ " " ++ value)

def withMedia (d : SessionDescription) (md : MediaDescription) : SessionDescription :=
  { d with mediaDescriptions := d.mediaDescriptions ++ [md] }

/-- A fresh JSEP description. Its `o=` line is the crate's: a random session id and the
sub-second nanoseconds of the clock as version, so both are inputs here. -/
def newJsepSessionDescription (origin : Origin) (identity : Bool) : SessionDescription :=
  let d : SessionDescription := { origin, attributes := [], mediaDescriptions := [] }
  if identity then d.withPropertyAttribute attrKeyIdentity else d

@[simp] theorem withPropertyAttribute_attributes (d : SessionDescription) (key : String) :
    (d.withPropertyAttribute key).attributes = d.attributes ++ [⟨key, none⟩] := rfl

@[simp] theorem withPropertyAttribute_mediaDescriptions (d : SessionDescription) (key : String) :
    (d.withPropertyAttribute key).mediaDescriptions = d.mediaDescriptions := rfl

@[simp] theorem withPropertyAttribute_origin (d : SessionDescription) (key : String) :
    (d.withPropertyAttribute key).origin = d.origin := rfl

@[simp] theorem withValueAttribute_attributes (d : SessionDescription) (key value : String) :
    (d.withValueAttribute key value).attributes = d.attributes ++ [⟨key, some value⟩] := rfl

@[simp] theorem withValueAttribute_mediaDescriptions (d : SessionDescription) (key value : String) :
    (d.withValueAttribute key value).mediaDescriptions = d.mediaDescriptions := rfl

@[simp] theorem withValueAttribute_origin (d : SessionDescription) (key value : String) :
    (d.withValueAttribute key value).origin = d.origin := rfl

@[simp] theorem withFingerprint_attributes (d : SessionDescription) (algorithm value : String) :
    (d.withFingerprint algorithm value).attributes =
      d.attributes ++ [⟨"fingerprint", some (algorithm ++ " " ++ value)⟩] := rfl

@[simp] theorem withFingerprint_mediaDescriptions (d : SessionDescription) (algorithm value : String) :
    (d.withFingerprint algorithm value).mediaDescriptions = d.mediaDescriptions := rfl

@[simp] theorem withFingerprint_origin (d : SessionDescription) (algorithm value : String) :
    (d.withFingerprint algorithm value).origin = d.origin := rfl

@[simp] theorem withMedia_attributes (d : SessionDescription) (md : MediaDescription) :
    (d.withMedia md).attributes = d.attributes := rfl

@[simp] theorem withMedia_mediaDescriptions (d : SessionDescription) (md : MediaDescription) :
    (d.withMedia md).mediaDescriptions = d.mediaDescriptions ++ [md] := rfl

@[simp] theorem withMedia_origin (d : SessionDescription) (md : MediaDescription) :
    (d.withMedia md).origin = d.origin := rfl

@[simp] theorem newJsepSessionDescription_mediaDescriptions (origin : Origin) (identity : Bool) :
    (newJsepSessionDescription origin identity).mediaDescriptions = [] := by
  unfold newJsepSessionDescription
  split <;> rfl

@[simp] theorem newJsepSessionDescription_attributes (origin : Origin) (identity : Bool) :
    (newJsepSessionDescription origin identity).attributes =
      if identity then [⟨attrKeyIdentity, none⟩] else [] := by
  unfold newJsepSessionDescription
  split <;> simp_all

@[simp] theorem newJsepSessionDescription_origin (origin : Origin) (identity : Bool) :
    (newJsepSessionDescription origin identity).origin = origin := by
  unfold newJsepSessionDescription
  split <;> rfl

end SessionDescription

end Sdp
