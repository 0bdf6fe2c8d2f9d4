import Audiostrike.Go
import Audiostrike.Utf8
import Audiostrike.Strconv
import Audiostrike.Proto.Wire
import Audiostrike.Proto.Art
import Audiostrike.Proto.RoundTrip
import Audiostrike.Proto.Accepted
import Audiostrike.Proto.Concat
import Audiostrike.Proto.Prefix
import Audiostrike.LightningNode
import Audiostrike.World
import Audiostrike.NewLightningNode
import Audiostrike.Regexp
import Audiostrike.Austk.StoreMp3File
import Audiostrike.Austk.PeerAddress
import Audiostrike.Austk.Main
