import Dpubsub.Proof.Bounds
import Dpubsub.Proof.RoundTrip
import Dpubsub.Model.ClientTcpApi
import Dpubsub.Model.TcpServer
import Dpubsub.Proof.Segmentation
import Dpubsub.Proof.Publish
import Dpubsub.Proof.Connection
import Dpubsub.Proof.Created
import Dpubsub.Proof.Descriptors
import Dpubsub.Proof.ReceiveBuffer
import Dpubsub.Proof.Ownership
import Dpubsub.Spec.Session
import Dpubsub.Proof.ConnectReport
import Dpubsub.Proof.Decoding
import Dpubsub.Proof.Puback
import Dpubsub.Proof.Delivery
import Dpubsub.Proof.RemainingLength
import Dpubsub.Proof.DynamicBuffer
import Dpubsub.Proof.Teardown
import Dpubsub.Proof.Setters
import Dpubsub.Proof.Serializers
import Dpubsub.Proof.PublishLimits
import Dpubsub.Proof.SendMessage
import Dpubsub.Lib.Memory
import Dpubsub.Proof.Transport
import Dpubsub.Proof.Dialogue
import Dpubsub.Proof.Publications
import Dpubsub.Proof.Accepted
import Dpubsub.Proof.Inward
import Dpubsub.Proof.Callbacks
import Dpubsub.Proof.Isolation
import Dpubsub.Proof.Dpubsub
import Dpubsub.Proof.Orderly
import Dpubsub.Proof.Exchange
import Dpubsub.Proof.ServerPrograms
import Dpubsub.Proof.ClientPrograms
import Dpubsub.Proof.ClientTest
