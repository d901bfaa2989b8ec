import WordSums.Http.Routes
import WordSums.Ledger.Binary
import WordSums.Machine.HistoryWritten
import WordSums.Machine.Outline
import WordSums.Main
import WordSums.Token.Written
import WordSums.Proofs.Interpreter
import WordSums.Proofs.Ledger.Clients
import WordSums.Proofs.Machine.Course
import WordSums.Proofs.Machine.Validation
import WordSums.Proofs.Machine.Rearranging
import WordSums.Proofs.Machine.Recording
import WordSums.Proofs.Machine.Reporting
import WordSums.Proofs.Service.Accounting
import WordSums.Proofs.Token.Recognition
import WordSums.Proofs.Token.AnyRecognizers
import WordSums.Proofs.Stages
import WordSums.Proofs.Text.Decimal
import WordSums.Proofs.Time.Written
import WordSums.Proofs.Json.Strings
import WordSums.Proofs.Json.Values
import WordSums.Proofs.Json.Containers
import WordSums.Proofs.Ledger.Binary
import WordSums.Proofs.Ledger.Written
import WordSums.Proofs.Ledger.Codecs
import WordSums.Proofs.Service.Restarts
import WordSums.Proofs.Service.Order
import WordSums.Proofs.Service.Readings
import WordSums.Proofs.Session.Composition
import WordSums.Proofs.Session.Listing
import WordSums.Proofs.Statement.FirstFault
import WordSums.Proofs.Safety
import WordSums.Proofs.Program
import WordSums.Proofs.Http.Routes
