import SocksProxy.Main
import SocksProxy.Proofs.Buffer
import SocksProxy.Proofs.Pop3.Attribution
import SocksProxy.Proofs.Pop3.Lockstep
import SocksProxy.Proofs.Server.Accounting
import SocksProxy.Proofs.Server.Routing
import SocksProxy.Proofs.Session.Admission
import SocksProxy.Proofs.Session.Failures
import SocksProxy.Proofs.Session.Idle
import SocksProxy.Proofs.Session.Requests
import SocksProxy.Proofs.Session.Schedules
import SocksProxy.Proofs.Session.Sniffing
import SocksProxy.Proofs.Session.Unsniffed
import SocksProxy.Proofs.Users
import SocksProxy.Proofs.Users.History
import SocksProxy.Proofs.Wire.Cells
import SocksProxy.Proofs.Wire.Recognition
import SocksProxy.Proofs.Wire.Reply
import SocksProxy.Rehearsal.Hosting
import SocksProxy.Rehearsal.Serving
