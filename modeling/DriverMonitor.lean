import DriverMonitor.Files.Tree
import DriverMonitor.Main
import DriverMonitor.Monitor.Pacer
import DriverMonitor.Proofs.Profile.Reading
import DriverMonitor.Proofs.Profile.Canonical
import DriverMonitor.Proofs.Profile.Limits
import DriverMonitor.Proofs.Store.FileName
import DriverMonitor.Proofs.Matcher.Decision
import DriverMonitor.Proofs.Monitor.Events
import DriverMonitor.Proofs.Monitor.Faces
import DriverMonitor.Proofs.Store.Contents
import DriverMonitor.Proofs.Store.ReadBack
import DriverMonitor.Proofs.Store.Drivers
import DriverMonitor.Proofs.Monitor.Accounts
import DriverMonitor.Proofs.Monitor.Crashing
import DriverMonitor.Proofs.Monitor.Sections
import DriverMonitor.Proofs.Matcher.Undefined
import DriverMonitor.Proofs.Number.Sign
import DriverMonitor.Proofs.Matcher.Recognition
import DriverMonitor.Proofs.Recording.Lines
import DriverMonitor.Proofs.Recording.Capture
import DriverMonitor.Proofs.Profile.Truncation
import DriverMonitor.Proofs.Recording.Positions
import DriverMonitor.Proofs.Store.Calibration
import DriverMonitor.Proofs.Store.Enrolling
import DriverMonitor.Proofs.Number.Double
import DriverMonitor.Proofs.Pose.Solution
import DriverMonitor.Proofs.Face.Mirror
import DriverMonitor.Proofs.Number.Bounds
import DriverMonitor.Proofs.Face.Openness
import DriverMonitor.Proofs.Json.RoundTrip
import DriverMonitor.Proofs.Recording.Frames
import DriverMonitor.Proofs.Recording.RoundTrip
import DriverMonitor.Proofs.Number.Exact
import DriverMonitor.Proofs.Linear.Minimiser
import DriverMonitor.Proofs.Gaze.Refusal
import DriverMonitor.Proofs.Gaze.Recovery
import DriverMonitor.Proofs.Gaze.Fit
import DriverMonitor.Proofs.Gaze.Extension
import DriverMonitor.Proofs.Pose.Facing
import DriverMonitor.Proofs.Profile.Arrival
import DriverMonitor.Proofs.Profile.Shape
import DriverMonitor.Proofs.Matcher.Listed
