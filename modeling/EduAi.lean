import EduAi.Gds.TopupCredit
import EduAi.Commerce.Gained
import EduAi.Commerce.Orders
import EduAi.Commerce.Access
import EduAi.Payments.BankTransfers
import EduAi.Payments.WalletCheckout
import EduAi.Commerce.Checkout
import EduAi.Commerce.MembershipCheckout
import EduAi.Payments.Refunds
import EduAi.Payments.VnPayIpn
import EduAi.Payments.LifecycleWrites
import EduAi.Payments.CommerceSystem
import EduAi.Payments.RefundWrites
import EduAi.Payments.WalletWrites
import EduAi.Commerce.Pricing
import EduAi.Payments.SingleSettlement
import EduAi.Payments.FulfilledOnce
import EduAi.Payments.WalletPayment
import EduAi.Payments.DualControl
import EduAi.Payments.FulfillmentEntries
import EduAi.Payments.PaymentClosing
import EduAi.Payments.RefundedAccess
import EduAi.Payments.Withdrawals
import EduAi.Payments.HeldPromotions
import EduAi.Payments.PromotionAgreement
import EduAi.Payments.RefundSound
import EduAi.Payments.RefundMoney
import EduAi.Revenue.MonthlyTable
import EduAi.Learning.Revocation
import EduAi.Programmes.EconomicTerms
import EduAi.Auth.RefreshTokens
import EduAi.Auth.OAuthSessions
import EduAi.Commerce.OrderAnswers
import EduAi.Memberships.PriceCheckout
import EduAi.Revenue.DueDates
import EduAi.Commerce.AccessDecision
import EduAi.Gds.WalletOrders
import EduAi.Gds.TopupRuns
import EduAi.Jobs.ApplicationHistory
import EduAi.Mentors.Proposals
import EduAi.Gds.RevenueSync
import EduAi.Revenue.Recognition
import EduAi.Learning.PathRules
import EduAi.Ai.TextChunker
import EduAi.Store.Decimal
import EduAi.Learning.CourseSlugs
import EduAi.Deployment.MigrationGate
import EduAi.Payments.VietQr
import EduAi.Quizzes.CanonicalJson
import EduAi.Quizzes.AnswerEquality
import EduAi.Quizzes.Presentation
import EduAi.Payments.VnPayEncoding
import EduAi.Gds.HistoryPages
import EduAi.Payments.ReceiptClaims
import EduAi.Memberships.Overlapped
import EduAi.Memberships.EntitlementConsume
import EduAi.Memberships.QuotaAgreement
import EduAi.Gds.WithdrawalRuns
import EduAi.Gds.WithdrawalAgreement
import EduAi.Gds.WithdrawalLifecycle
