import VirtualRadio.Generator.Recording
import VirtualRadio.Generator.Run
import VirtualRadio.Main
import VirtualRadio.Proofs.Control.Bank
import VirtualRadio.Proofs.Control.Frequencies
import VirtualRadio.Proofs.Control.Readings
import VirtualRadio.Proofs.Control.Reports
import VirtualRadio.Proofs.Disk
import VirtualRadio.Proofs.Generator.Pacing
import VirtualRadio.Proofs.Generator.Schedules
import VirtualRadio.Proofs.Generator.Stopping
import VirtualRadio.Proofs.Ring.Delivery
import VirtualRadio.Proofs.Ring.History
import VirtualRadio.Proofs.Ring.Queue
import VirtualRadio.Proofs.Settings.RoundTrip
import VirtualRadio.Proofs.Settings.Sources
import VirtualRadio.Proofs.Sink.Files
import VirtualRadio.Proofs.Sink.Pacing
import VirtualRadio.Proofs.Station.Attendance
import VirtualRadio.Proofs.Station.Build
import VirtualRadio.Proofs.Station.Destinations
import VirtualRadio.Proofs.Station.Filters
import VirtualRadio.Proofs.Station.Framing
import VirtualRadio.Proofs.Station.IdlePackets
import VirtualRadio.Proofs.Station.Intake
import VirtualRadio.Proofs.Station.RegisterLog
import VirtualRadio.Proofs.Station.Runs
import VirtualRadio.Proofs.Station.SequenceGaps
import VirtualRadio.Proofs.Station.Waits
import VirtualRadio.Proofs.Stream.Codes
import VirtualRadio.Proofs.Transmit.Bursts
import VirtualRadio.Proofs.Transmit.Files
import VirtualRadio.Proofs.Transmit.Requests
import VirtualRadio.Proofs.Transmit.Tuning
import VirtualRadio.Sink.Recorder
import VirtualRadio.Sink.Scripted
