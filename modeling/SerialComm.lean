import SerialComm.Unix.ReadLoop
import SerialComm.Unix.DataLooper
import SerialComm.Unix.Setup
import SerialComm.Unix.EventLooper
import SerialComm.Unix.PortMonitor
import SerialComm.Unix.UdevMonitor
import SerialComm.Windows.Registry
import SerialComm.Windows.Concurrent
import SerialComm.Windows.PortNames
import SerialComm.Windows.Dcb
import SerialComm.Windows.Port
