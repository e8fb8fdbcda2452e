import Rips.Basic
import Rips.Ethernet.Payload
import Rips.Ethernet.Tx
import Rips.Barrier
import Rips.Arp
import Rips.Interface
import Rips.Worker
import Rips.Invalidation
import Rips.Race
import Rips.Serial
import Rips.Wakeup
import Rips.Stack
import Rips.Udp
import Rips.Api
import Rips.Icmp
import Rips.Persist
import Rips.Wire
import Rips.Mtu
import Rips.Link
