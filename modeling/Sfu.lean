import Sfu.Sdp.Description
import Sfu.Description.Direction
import Sfu.Description.Types
import Sfu.Description.Attributes
import Sfu.Description.Section
import Sfu.Description.Populate
import Sfu.Description.Readback
import Sfu.Description.Origin
import Sfu.Session.Endpoint
import Sfu.Session.Match
import Sfu.Session.Plan
import Sfu.Session.Negotiation
import Sfu.Session.OfferAnswer
import Sfu.Session.Answer
import Sfu.Session.Renegotiation
import Sfu.Server.UdpDemuxer
