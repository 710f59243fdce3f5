import Clubzey.Foundation.Runs
import Clubzey.Foundation.Collection
import Clubzey.Foundation.Calendar
import Clubzey.Foundation.Decimal
import Clubzey.Dart.Core
import Clubzey.Dart.DateTime
import Clubzey.Dart.Value
import Clubzey.Dart.Uuid
import Clubzey.Models.Invitation
import Clubzey.Backend.Server
import Clubzey.Views.JoinWithCodePage
import Clubzey.Systems.Redemption
import Clubzey.Proofs.OneTimeCode
import Clubzey.Proofs.LiveCode
import Clubzey.Foundation.Requests
import Clubzey.Models.Club
import Clubzey.Backend.TopicSubscription
import Clubzey.Systems.Subscription
import Clubzey.Proofs.TopicSync
import Clubzey.Proofs.TopicOverlap
import Clubzey.Proofs.TopicRecovery
import Clubzey.Models.Transactions
import Clubzey.Dart.DoubleText
import Clubzey.Views.PaymentDetailsPage
import Clubzey.Proofs.PaymentKeys
import Clubzey.Dart.DateTimeText
import Clubzey.Models.Encryption
import Clubzey.Models.EncryptedId
import Clubzey.Views.AddMemberPage
import Clubzey.Views.QrCodeScanner
import Clubzey.Proofs.QrZones
import Clubzey.Proofs.Membership
import Clubzey.Systems.Invitation
import Clubzey.Proofs.SharedCode
import Clubzey.Views.Dashboard
import Clubzey.Systems.Navigation
import Clubzey.Proofs.Badges
import Clubzey.Foundation.Sexagesimal
import Clubzey.Dart.Duration
import Clubzey.Utils.Helper
import Clubzey.Proofs.RemainingTime
import Clubzey.Systems.TimerLabel
import Clubzey.Proofs.Countdown
import Clubzey.Dart.Text
import Clubzey.Views.LoginPage
import Clubzey.Systems.Login
import Clubzey.Proofs.LoginTruth
import Clubzey.Proofs.TransactionStore
import Clubzey.Backend.ClubData
import Clubzey.Views.CreateClub
import Clubzey.Proofs.ClubRoundTrip
import Clubzey.Dart.TimeZone
import Clubzey.Proofs.QrPayload
import Clubzey.Systems.QrDisplay
import Clubzey.Proofs.QrFreshness
import Clubzey.Systems.Scanner
import Clubzey.Proofs.ScannerUse
import Clubzey.Models.ClubzeyUser
import Clubzey.Models.UserPayment
import Clubzey.Views.ClubDetails
import Clubzey.Proofs.AbsentDocuments
import Clubzey.Proofs.FormGates
import Clubzey.Foundation.Replacement
import Clubzey.Dart.ReplaceAll
import Clubzey.Proofs.SecondPerson
import Clubzey.Foundation.Labels
import Clubzey.Foundation.Rounding
import Clubzey.Foundation.Keyed
import Clubzey.Foundation.Generator
import Clubzey.Foundation.Handlers
import Clubzey.Utils.Timer
import Clubzey.Dart.DoubleArithmetic
import Clubzey.Views.Cards
import Clubzey.Proofs.Amounts
import Clubzey.Systems.Store
import Clubzey.Systems.Clients
import Clubzey.Proofs.StoreSafety
import Clubzey.Proofs.CodeResolution
import Clubzey.Proofs.EarnedMemberships
import Clubzey.Proofs.Sessions
import Clubzey.Proofs.QrReuse
import Clubzey.Systems.Reload
import Clubzey.Proofs.ReloadPace
import Clubzey.Utils.ClockText
import Clubzey.Views.DateLabels
import Clubzey.Proofs.DateLabels
import Clubzey.Foundation.LastWrites
import Clubzey.Proofs.StoreHistory
import Clubzey.Systems.ScanLabel
import Clubzey.Proofs.ScanLabel
import Clubzey.Utils.Email
import Clubzey.Proofs.EmailForm
import Clubzey.Proofs.FallbackName
