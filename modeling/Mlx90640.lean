import Mlx90640.Lib.Loops
import Mlx90640.Bus.Transfer
import Mlx90640.Bus.ControlRegister
import Mlx90640.Bus.FrameData
import Mlx90640.Bus.Snapshot
import Mlx90640.Bus.Chunks
import Mlx90640.Calibration.Extract
import Mlx90640.Lib.BitField
import Mlx90640.Lib.Rounding
import Mlx90640.Calibration.Decoding
import Mlx90640.Calibration.Coefficients
import Mlx90640.Calibration.Sensitivity
import Mlx90640.Calibration.Deviating
import Mlx90640.Lib.Race
import Mlx90640.Calibration.Verdicts
import Mlx90640.Calibration.Parameters
import Mlx90640.Lib.InPlace
import Mlx90640.Pixels.Correction
import Mlx90640.Pixels.OrderIndependence
import Mlx90640.Lib.Median
import Mlx90640.Pixels.Neighbours
import Mlx90640.Lib.Overwrite
import Mlx90640.Pixels.Temperature
import Mlx90640.Pixels.Noninterference
import Mlx90640.Pixels.Ranges
import Mlx90640.App.Acquisition
import Mlx90640.Lib.Bilinear
import Mlx90640.Display.Interpolation
import Mlx90640.Lib.Scan
import Mlx90640.Display.Extremes
import Mlx90640.Display.Glyphs
import Mlx90640.Display.Font
import Mlx90640.Lib.Journal
import Mlx90640.Display.Numbers
import Mlx90640.Display.Readout
import Mlx90640.Display.Colour
import Mlx90640.Display.Screen
import Mlx90640.Lib.OpenDrain
import Mlx90640.Rtos.Event
import Mlx90640.Bus.Controller
import Mlx90640.Bus.Driver
import Mlx90640.Bus.Registers
import Mlx90640.Bus.Overrun
import Mlx90640.Display.Rendering
import Mlx90640.Lib.DoubleBuffer
import Mlx90640.Display.FrameBuffers
import Mlx90640.App.Thermograph
import Mlx90640.Bus.Simulation
import Mlx90640.Bus.Scheduled
import Mlx90640.App.Interleaved
import Mlx90640.App.Startup
import Mlx90640.App.Refresh
import Mlx90640.App.Measured
