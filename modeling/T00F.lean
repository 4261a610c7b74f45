import T00F.Recovery.FlashIfwi
import T00F.Recovery.FipScan
import T00F.Recovery.EmmcFailure
import T00F.Recovery.ForceRo
import T00F.Recovery.Retry
import T00F.Mkbootimg.PackFailure
import T00F.Mkbootimg.Truncation
import T00F.Mkbootimg.OptionLoop
import T00F.Mkbootimg.CmdlineField
import T00F.Mkbootimg.FilterWords
import T00F.Mkbootimg.OsipTypes
import T00F.Mkbootimg.Repack
import T00F.Sensors.Wakeup
import T00F.Sensors.Close
import T00F.Sensors.Listing
import T00F.Sensors.Batch
import T00F.Sensors.Inject
import T00F.Sensors.Published
import T00F.Sensors.Fairness
import T00F.Sensors.Delivery
import T00F.Sensors.IntQueue
import T00F.Power.Profile
import T00F.Power.Frequencies
import T00F.Lights.Led
import T00F.Touchscreen.Gestures
import T00F.Graphics.Flatten
import T00F.Graphics.Unflatten
import T00F.Graphics.Allocator
import T00F.Graphics.Lifecycle
import T00F.Libshims.Construction
import T00F.Libshims.CreateEventQueue
import T00F.Libshims.DeathNotice
import T00F.Camera.Ownership
import T00F.Camera.OpenFailure
import T00F.Systems.Transition
import T00F.Rootdir.InitProps
import T00F.Rootdir.UsbConfig
import T00F.Rootdir.AtProxy
import T00F.Recovery.PowerCut
import T00F.Sensors.LazyInit
