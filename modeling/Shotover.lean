import Shotover.Frame.Kafka
import Shotover.Lua.ShortString
import Shotover.Message
import Shotover.Transforms.Chain
import Shotover.Transforms.KafkaDestination
import Shotover.Transforms.Mpsc
import Shotover.Transforms.RedisClusterPortsRewrite
import Shotover.Transforms.Tee
import Shotover.Transforms.TimestampTagging
