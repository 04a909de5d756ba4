import Ch32v307.Data.Run
import Ch32v307.Data.Word
import Ch32v307.Data.Raster
import Ch32v307.Data.Numeral
import Ch32v307.Data.Bits
import Ch32v307.Data.Slots
import Ch32v307.Data.Shuffle
import Ch32v307.Data.Descent
import Ch32v307.Data.Loop
import Ch32v307.Data.Tiling
import Ch32v307.Data.Deadline
import Ch32v307.Data.Rows
import Ch32v307.Kernel.SysTick
import Ch32v307.Lcd.Driver
import Ch32v307.Lcd.Init
import Ch32v307.Lcd.Recorder
import Ch32v307.Lcd.Device
import Ch32v307.Lcd.Geometry
import Ch32v307.Lcd.Position
import Ch32v307.Lcd.Transfer
import Ch32v307.Lcd.Panel
import Ch32v307.Lcd.Paint
import Ch32v307.Lcd.PaintPaths
import Ch32v307.Lcd.Runs
import Ch32v307.Lcd.Shapes
import Ch32v307.Lcd.Clear
import Ch32v307.Lcd.Box
import Ch32v307.Lcd.ShapeBounds
import Ch32v307.Lcd.Drawing
import Ch32v307.Lcd.LineShape
import Ch32v307.Lcd.Points
import Ch32v307.Lcd.CircleShape
import Ch32v307.Lcd.Hlines
import Ch32v307.Lcd.DiscShape
import Ch32v307.Lcd.Glyph
import Ch32v307.Lcd.Text
import Ch32v307.Lcd.StringLayout
import Ch32v307.Lcd.Decimal
import Ch32v307.Lcd.TextPlaces
import Ch32v307.Lcd.OffPanel
import Ch32v307.Lcd.Termination
import Ch32v307.Lcd.Interleave
import Ch32v307.Lcd.ReadBack
import Ch32v307.Kernel.Startup
import Ch32v307.Kernel.Heap
import Ch32v307.Kernel.HeapBlocks
import Ch32v307.Kernel.HeapCalls
import Ch32v307.Kernel.HeapRealloc
import Ch32v307.Kernel.HeapSession
import Ch32v307.Kernel.HeapRuns
import Ch32v307.Kernel.Timer
import Ch32v307.Kernel.TimerAlarms
import Ch32v307.Kernel.TimerOrder
import Ch32v307.Kernel.TimerRuns
import Ch32v307.Kernel.Scheduler
import Ch32v307.Kernel.SchedulerSound
import Ch32v307.Kernel.SchedulerCalls
import Ch32v307.Kernel.SchedulerFrames
import Ch32v307.Kernel.SchedulerSteps
import Ch32v307.Kernel.SchedulerRuns
import Ch32v307.Kernel.SchedulerTime
import Ch32v307.Image.CText
import Ch32v307.Image.Transform
import Ch32v307.Image.Pipeline
import Ch32v307.Ws2812.Frame
import Ch32v307.Ws2812.Timing
import Ch32v307.Ws2812.Hsv
import Ch32v307.Ws2812.HsvFormula
import Ch32v307.Ws2812.Rainbow
import Ch32v307.Shell.Arguments
import Ch32v307.Gpio.Registers
import Ch32v307.Gpio.Driver
import Ch32v307.Gpio.Interrupts
import Ch32v307.Gpio.Isolation
import Ch32v307.Gpio.Attach
import Ch32v307.Gpio.Edges
import Ch32v307.Serial.Usart
import Ch32v307.Serial.Receive
