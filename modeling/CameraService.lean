import CameraService.Heic.KeyMap
import CameraService.Heic.Types
import CameraService.Heic.Callbacks
import CameraService.Heic.Compile
import CameraService.Heic.AppSegment
import CameraService.Heic.Process
import CameraService.Heic.Worker
import CameraService.Heic.Framing
import CameraService.Heic.YuvHolder
import CameraService.Heic.OutputSlots
import CameraService.Heic.ErrorHandling
import CameraService.Heic.Selection
import CameraService.Heic.FrameTable
import CameraService.Heic.Attribution
import CameraService.Heic.CodecOutputs
import CameraService.Heic.Gainmap
import CameraService.Heic.SegmentGrammar
import CameraService.Heic.Tiling
import CameraService.Heic.TileCopy
import CameraService.Decoder.H264
import CameraService.Decoder.Nv21
import CameraService.Shared.SurfaceMap
import CameraService.Shared.OutputConfig
import CameraService.Shared.Device
import CameraService.Shared.Client
import CameraService.Shared.Registry
import CameraService.DeviceClient.DynamicRange
import CameraService.DeviceClient.Streams
import CameraService.DeviceClient.Configured
import CameraService.DeviceClient.Requests
import CameraService.Config.Utils
import CameraService.Config.Reader
import CameraService.Config.Format
