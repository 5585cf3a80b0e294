import Bosconian.EventMachine
import Bosconian.Hdl.Words
import Bosconian.Hdl.VgaController
import Bosconian.Hdl.Scroll
import Bosconian.Hdl.Bullets
import Bosconian.Hdl.DisplayGame
import Bosconian.Hdl.StateController
import Bosconian.Hdl.Design
import Bosconian.Hdl.Scene
import Bosconian.Hdl.Sprites
import Bosconian.Hdl.EndScreens
import Bosconian.Hdl.Shooting
import Bosconian.Hdl.Raster
import Bosconian.Hdl.PixelCollision
import Bosconian.Hdl.Reset
import Bosconian.Scripted
import Bosconian.Scripted.Loops
import Bosconian.Scripted.Faults
import Bosconian.Scripted.Related
import Bosconian.Usb.Chip
import Bosconian.Usb.Transfer
import Bosconian.Usb.InTransfer
import Bosconian.Usb.Hid
import Bosconian.Usb.Main
import Bosconian.Hdl.Flight
import Bosconian.Hdl.Sync
import Bosconian.Hdl.Gun
import Bosconian.Hdl.EnemyShots
import Bosconian.Hdl.Tunnel
import Bosconian.Hdl.Colors
import Bosconian.Hdl.Picture
import Bosconian.Usb.Routines
import Bosconian.Usb.TaskRoutines
import Bosconian.Usb.Frame
import Bosconian.Usb.Addressing
import Bosconian.Usb.Descriptors
import Bosconian.Usb.TaskState
import Bosconian.Hdl.BaseTexels
import Bosconian.Hdl.EnemyAim
import Bosconian.Hdl.TitleScreen
import Bosconian.Usb.Deadlines
import Bosconian.Usb.Packets
import Bosconian.Retry
import Bosconian.Usb.Dispatch
import Bosconian.Usb.Seek
import Bosconian.Usb.ScanSteps
import Bosconian.Usb.ScanReads
import Bosconian.Usb.ProbeTrace
import Bosconian.Usb.Received
import Bosconian.Usb.ProbeInput
import Bosconian.Usb.Enumeration
import Bosconian.Usb.Strings
import Bosconian.Hdl.Rounds
import Bosconian.Hdl.Reckoning
import Bosconian.Usb.Footprint
import Bosconian.Usb.Reports
import Bosconian.Usb.Bounds
import Bosconian.Usb.Naming
import Bosconian.Usb.Enlisted
import Bosconian.Usb.Endpoints
import Bosconian.Usb.Phases
import Bosconian.Usb.Protocol
import Bosconian.Soc.Spi
import Bosconian.Soc.SpiBytes
import Bosconian.Soc.SpiAccess
import Bosconian.Soc.SpiFrames
import Bosconian.Usb.Keyboard
import Bosconian.Soc.Board
import Bosconian.Hdl.Screens
import Bosconian.Hdl.Blanking
import Bosconian.Usb.StateDiagram
import Bosconian.Usb.Polls
import Bosconian.Soc.Panel
