import OpenRazer.Accounting
import OpenRazer.Acknowledged
import OpenRazer.Answering
import OpenRazer.Bus
import OpenRazer.Checksum
import OpenRazer.CliSafety
import OpenRazer.Coverage
import OpenRazer.Diagnostics
import OpenRazer.DriverMatch
import OpenRazer.FindNode
import OpenRazer.Guards
import OpenRazer.Isolation
import OpenRazer.LabelFormat
import OpenRazer.Legal
import OpenRazer.ListTable
import OpenRazer.ListingOrder
import OpenRazer.Privacy
import OpenRazer.Recording
import OpenRazer.Recover
import OpenRazer.ReplugSafety
import OpenRazer.ReplugTarget
import OpenRazer.Rung1
import OpenRazer.Scrapes
import OpenRazer.SerialText
import OpenRazer.SetDeviceMode
import OpenRazer.Settings
import OpenRazer.UdevRules
import OpenRazer.ValidateHidraw
import OpenRazer.Sharing
