import Litep2p.Lib.XorDistance
import Litep2p.Lib.SortedPrefix
import Litep2p.Lib.StableSort
import Litep2p.Lib.ListSplice
import Litep2p.Lib.Reachable
import Litep2p.Lib.Simulation
import Litep2p.Kademlia.Types
import Litep2p.Kademlia.Bucket
import Litep2p.Kademlia.RoutingTable
import Litep2p.Kademlia.ClosestBuckets
import Litep2p.Kademlia.TableInvariant
import Litep2p.Kademlia.Closest
import Litep2p.Kademlia.PutRecordToPeers
import Litep2p.Kademlia.LookupPurity
import Litep2p.Lib.Leb128
import Litep2p.Error
import Litep2p.Codec.UnsignedVarint
import Litep2p.MultistreamSelect.Protocol
import Litep2p.MultistreamSelect.Negotiation
import Litep2p.Lib.Protobuf
import Litep2p.Lib.SortedMap
import Litep2p.Lib.TopK
import Litep2p.Kademlia.Message
import Litep2p.Kademlia.Query
import Litep2p.Kademlia.GetProviders
import Litep2p.Kademlia.QueryPeers
import Litep2p.Kademlia.QueryResults
import Litep2p.Kademlia.Handler
import Litep2p.Substream.Framing
import Litep2p.Transport.WebSocketStream
import Litep2p.Crypto.Identity
import Litep2p.Crypto.NoiseHandshake
import Litep2p.Lib.Mealy
import Litep2p.Protocol.RequestResponse
import Litep2p.Crypto.NoiseSocket
import Litep2p.Crypto.NoiseRoundTrip
import Litep2p.Lib.BinarySearch
import Litep2p.Lib.AListKeys
import Litep2p.Kademlia.Store
import Litep2p.Kademlia.StoreProviders
import Litep2p.Protocol.TransportService
import Litep2p.Transport.Manager.Types
import Litep2p.Lib.SwissTable
import Litep2p.Transport.Manager.Handle
import Litep2p.Transport.Manager.Manager
import Litep2p.Protocol.Notification
import Litep2p.Transport.Tcp
import Litep2p.Lib.BigEndian
import Litep2p.Yamux.Header
import Litep2p.Yamux.FrameIo
import Litep2p.Yamux.Chunks
import Litep2p.Yamux.Stream
import Litep2p.Yamux.Connection
import Litep2p.Yamux.Invariant
import Litep2p.Yamux.Closing
import Litep2p.Yamux.Session
import Litep2p.Yamux.Safety
import Litep2p.Yamux.GracefulClose
