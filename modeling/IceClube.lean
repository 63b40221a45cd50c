import IceClube.Aprovacao
import IceClube.Balcao
import IceClube.Base64
import IceClube.Botoes
import IceClube.Cadastro
import IceClube.CadastroAberto
import IceClube.CarrinhoNoEstoque
import IceClube.Catalogo
import IceClube.Categorias
import IceClube.CategoriasDeDespesa
import IceClube.Comprovantes
import IceClube.ConcluirEdicao
import IceClube.Desligamento
import IceClube.Despacho
import IceClube.Despesas
import IceClube.Devolucao
import IceClube.Distancias
import IceClube.DuasTelas
import IceClube.EntradaNoSite
import IceClube.EntregaAberta
import IceClube.ErroAoFinalizar
import IceClube.EstoquePedido
import IceClube.FiltroDoDia
import IceClube.Filtros
import IceClube.Formato
import IceClube.InicioDeRota
import IceClube.Isolamento
import IceClube.Listagens
import IceClube.LojaInteira
import IceClube.Metricas
import IceClube.MotivoCerto
import IceClube.Movimentos
import IceClube.Ociosa
import IceClube.Paginacao
import IceClube.Painel
import IceClube.PainelDoDia
import IceClube.PelaMetade
import IceClube.Portaria
import IceClube.PrecoDoPedido
import IceClube.Progresso
import IceClube.QuadroDeProducao
import IceClube.Quantidade
import IceClube.Rastreio
import IceClube.Rejeicoes
import IceClube.RotaAberta
import IceClube.RotasSalvas
import IceClube.Saldo
import IceClube.Sessao
import IceClube.SessaoValida
import IceClube.SigiloDoPainel
import IceClube.Teclado
import IceClube.TelaDeDevolucoes
import IceClube.TransacaoSozinha
import IceClube.TudoOuNada
import IceClube.UltimaEntrega
import IceClube.ValorRecebido
import IceClube.ValoresReceber
import IceClube.VendaParada
import IceClube.VendaUnica
import IceClube.VendasAgrupadas
