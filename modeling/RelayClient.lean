import RelayClient.History
import RelayClient.Proofs.DigestCommitment
import RelayClient.Proofs.EncodableBodies
import RelayClient.Proofs.GoKeyOrder
import RelayClient.Proofs.KeyPoints
import RelayClient.Proofs.OwnDraws
import RelayClient.Proofs.ResponseVerdicts
import RelayClient.Proofs.SessionServicers
import RelayClient.Proofs.StageOrder
import RelayClient.SignatureCheck
import RelayClient.Transaction
import RelayClient.Proofs.HexDigits
import RelayClient.Proofs.PrivateKeys
import RelayClient.Proofs.MessageOrders
import RelayClient.Proofs.NullFields
import RelayClient.Proofs.SignatureVerdicts
import RelayClient.Proofs.HeaderOverrides
import RelayClient.Proofs.KeyTexts
