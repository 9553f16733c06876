import Ccid.Main
import Ccid.Proofs.Session.Attribution
import Ccid.Proofs.Session.Recovery
import Ccid.Proofs.Session.Power
import Ccid.Proofs.Session.Atomicity
import Ccid.Proofs.Session.Writing
import Ccid.Proofs.Atr.Grammar
import Ccid.Proofs.Atr.Walking
import Ccid.Proofs.Message.Reading
import Ccid.Proofs.Message.Echoing
import Ccid.Proofs.Session.Counting
import Ccid.Proofs.Session.Deadlines
import Ccid.Proofs.Cli.Deadlines
import Ccid.Proofs.Session.Processing
import Ccid.Proofs.Cli.PowerCycle
import Ccid.Proofs.Cli.Custody
import Ccid.Proofs.Session.Renumbering
import Ccid.Proofs.Cli.Reporting
import Ccid.Proofs.Session.Judging
import Ccid.Proofs.Session.Padding
import Ccid.Proofs.Usb.Discovery
import Ccid.Proofs.Hex.Digits
import Ccid.Proofs.Cli.Identifiers
import Ccid.Proofs.Cli.Transmitting
import Ccid.Proofs.Session.Listening
import Ccid.Proofs.Session.Logging
import Ccid.Proofs.Atr.Bounds
import Ccid.Proofs.Report.Distinctness
import Ccid.Proofs.Json.Stability
